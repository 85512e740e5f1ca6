import Groundwork.Proofs.Artifact.Names
import Groundwork.Proofs.Artifact.Placement

/-!
# Projects without links

In a project whose directories of artifacts are missing or real directories, with aggregators that
are missing or real files (`Plain`), every path of an artifact means one place. Writing an artifact
there has an exact effect (`Gains`, `gains_of_writes`): its file is new and holds its text, its
aggregator has its line registered, and nothing else has changed but that its directory is there.
The project is still plain afterwards (`Gains.plain`).
-/

namespace Groundwork

open Text Groundwork.Path

/-- The place of a file of an artifact, in the project at `here`. -/
def ArtifactKind.place (kind : ArtifactKind) (here : Location) (name : String) : Location :=
  name :: kind.directory :: here

/-- The project `root`, which is at `here`, has no links where artifacts are written. -/
structure Plain (t : FileTree) (root : Path) (here : Location) : Prop where
  /-- The tree is rooted. -/
  rooted : t.Rooted
  /-- The root leads there. -/
  reaches : ∃ links, t.Reaches root links here
  /-- The directories of artifacts are missing or real directories. -/
  directory (kind : ArtifactKind) :
    t.entry? (kind.directory :: here) = none ∨
      t.entry? (kind.directory :: here) = some .directory
  /-- The aggregators are missing or real files. -/
  aggregator (kind : ArtifactKind) :
    t.entry? (kind.place here ArtifactKind.aggregatorName) = none ∨
      ∃ bytes, t.entry? (kind.place here ArtifactKind.aggregatorName) = some (.file bytes)

/-- The name and the paths of an artifact below `root` are not too long. -/
structure ArtifactKind.Fits (kind : ArtifactKind) (root : Path) (entity : Entity) : Prop where
  /-- The name of the file is not too long. -/
  name : byteLength (kind.fileName entity) ≤ FileTree.nameLimit
  /-- The path of the file is not too long. -/
  path : byteLength (root.join (kind.path entity)).text ≤ FileTree.pathLimit
  /-- The path of the aggregator is not too long. -/
  aggregator : byteLength (root.join kind.aggregator).text ≤ FileTree.pathLimit

/-- What is different after the artifact of an entity has been written in a plain project. -/
structure Gains (root : Path) (here : Location) (kind : ArtifactKind) (entity : Entity)
    (artifact : Artifact) (t t' : FileTree) : Prop where
  /-- There was nothing in the place of the file. -/
  free : t.entry? (kind.place here (kind.fileName entity)) = none
  /-- The file is there and holds the text of the artifact. -/
  target : t'.entry? (kind.place here (kind.fileName entity)) =
    some (.file (encode artifact.content))
  /-- The file can be looked up. -/
  short : byteLength (root.join artifact.path).text ≤ FileTree.pathLimit ∧
    byteLength (kind.fileName entity) ≤ FileTree.nameLimit
  /-- The directory is there. -/
  directory : t'.entry? (kind.directory :: here) = some .directory
  /-- The aggregator has the line of the artifact registered. -/
  aggregator : t'.bytesAt (kind.place here ArtifactKind.aggregatorName) =
    Aggregator.registered (t.bytesAt (kind.place here ArtifactKind.aggregatorName))
      artifact.registration
  /-- The aggregator is still missing or a real file. -/
  plain : t'.entry? (kind.place here ArtifactKind.aggregatorName) = none ∨
    ∃ bytes, t'.entry? (kind.place here ArtifactKind.aggregatorName) = some (.file bytes)
  /-- Every other place is as it was. -/
  others (location : Location) (hf : location ≠ kind.place here (kind.fileName entity))
    (ha : location ≠ kind.place here ArtifactKind.aggregatorName)
    (hd : location ≠ kind.directory :: here) : t'.entry? location = t.entry? location

variable {t t' : FileTree} {root : Path} {here : Location} {kind kind' : ArtifactKind}
  {entity : Entity} {artifact : Artifact}

namespace ArtifactKind

theorem byteLength_directory (kind : ArtifactKind) :
    byteLength kind.directory ≤ FileTree.nameLimit := by
  cases kind <;> decide

theorem byteLength_aggregatorName : byteLength aggregatorName ≤ FileTree.nameLimit := by
  decide

theorem directory_inj : kind.directory = kind'.directory ↔ kind = kind' := by
  cases kind <;> cases kind' <;> decide

/-- The files of artifacts are told apart by their kinds and names. -/
theorem place_inj {name name' : String} :
    kind.place here name = kind'.place here name' ↔ kind = kind' ∧ name = name' := by
  simp [place, directory_inj, and_comm]

theorem place_ne_nil (kind : ArtifactKind) (here : Location) (name : String) :
    kind.place here name ≠ [] :=
  List.cons_ne_nil _ _

theorem place_ne_directory (kind kind' : ArtifactKind) (here : Location) (name : String) :
    kind.place here name ≠ kind'.directory :: here := by
  simp [place]

/-- Below a short root, a short path of an artifact fits. -/
theorem fits_of_short (hroot : (encodeChars (anchored root.text.toList)).length ≤ 100)
    (hpath : byteLength (kind.path entity).text ≤ 100) : kind.Fits root entity where
  name := by
    rw [path_eq] at hpath
    simp only [byteLength, encode, encodeChars, toList_pair, List.flatMap_append,
      List.flatMap_cons, List.length_append] at hpath
    rw [FileTree.nameLimit, byteLength, encode, encodeChars]
    omega
  path := by
    refine FileTree.short_join hroot ?_ hpath
    rw [path_eq]
    exact pair_not_absolute kind.isName_directory
  aggregator := by
    refine FileTree.short_join hroot ?_ (by cases kind <;> decide)
    rw [aggregator_eq]
    exact pair_not_absolute kind.isName_directory

/-- No file of an artifact is in the place of an aggregator. -/
theorem place_ne_aggregator (h : entity.WellNamed) (kind' : ArtifactKind) :
    kind.place here (kind.fileName entity) ≠ kind'.place here aggregatorName :=
  fun he => fileName_ne_aggregator h (List.cons.inj he).1

end ArtifactKind

/-! ## Writing -/

section Registering

variable {links : Nat} {line : String} (hr : t.Reaches root links here)
  (hd : t.entry? (kind.directory :: here) = some .directory)
  (hf : t.entry? (kind.place here ArtifactKind.aggregatorName) = none ∨
    ∃ old, t.entry? (kind.place here ArtifactKind.aggregatorName) = some (.file old))

include hr hd hf

/-- What is found of an aggregator that is missing or a real file. -/
theorem existing_aggregator :
    t.existing (root.join kind.aggregator) =
      if FileTree.pathLimit < byteLength (root.join kind.aggregator).text then
        .error .nameTooLong
      else .ok (t.bytesAt (kind.place here ArtifactKind.aggregatorName)) := by
  rw [kind.aggregator_eq]
  exact FileTree.existing_pair hr kind.isName_directory ArtifactKind.isName_aggregator
    kind.byteLength_directory hd ArtifactKind.byteLength_aggregatorName hf

theorem bytes_of_existing {bytes : List UInt8}
    (h : t.existing (root.join kind.aggregator) = .ok bytes) :
    bytes = t.bytesAt (kind.place here ArtifactKind.aggregatorName) := by
  rw [existing_aggregator hr hd hf] at h
  split at h
  · cases h
  · exact (Except.ok.inj h).symm

/-- Appending to an aggregator that is missing or a real file. -/
theorem append_aggregator (bytes : List UInt8) :
    t.append (root.join kind.aggregator) bytes =
      if FileTree.pathLimit < byteLength (root.join kind.aggregator).text then
        .error .nameTooLong
      else
        .ok (t.put (kind.place here ArtifactKind.aggregatorName)
          (.file (t.bytesAt (kind.place here ArtifactKind.aggregatorName) ++ bytes))) := by
  rw [kind.aggregator_eq]
  exact FileTree.append_pair hr kind.isName_directory ArtifactKind.isName_aggregator
    kind.byteLength_directory hd ArtifactKind.byteLength_aggregatorName hf

/-- Registering a line in an aggregator that is missing or a real file. -/
theorem registers_plain {registered : Bool}
    (h : Aggregator.Registers (root.join kind.aggregator) line t (.ok registered) t') :
    t'.bytesAt (kind.place here ArtifactKind.aggregatorName) =
        Aggregator.registered (t.bytesAt (kind.place here ArtifactKind.aggregatorName)) line ∧
      (t'.entry? (kind.place here ArtifactKind.aggregatorName) = none ∨
        ∃ bytes, t'.entry? (kind.place here ArtifactKind.aggregatorName) = some (.file bytes)) ∧
      ∀ location, location ≠ kind.place here ArtifactKind.aggregatorName →
        t'.entry? location = t.entry? location := by
  cases h with
  | present bytes hx hl =>
    obtain rfl := bytes_of_existing hr hd hf hx
    rw [Aggregator.registered, if_pos hl]
    exact ⟨rfl, hf, fun _ _ => rfl⟩
  | added bytes _ hx hl ha =>
    rw [append_aggregator hr hd hf] at ha
    split at ha
    · cases ha
    obtain rfl := bytes_of_existing hr hd hf hx
    cases ha
    have hput := FileTree.entry?_put_self (t := t)
      (kind.place_ne_nil here ArtifactKind.aggregatorName)
    refine ⟨?_, .inr ⟨_, hput _⟩, fun location hne => FileTree.entry?_put_of_ne hne _⟩
    rw [Aggregator.registered, hl, FileTree.bytesAt, hput]
    rfl

/-- What is told of registering a line is whether it was missing. -/
theorem told_of_registers {registered : Bool}
    (h : Aggregator.Registers (root.join kind.aggregator) line t (.ok registered) t') :
    registered =
      !Aggregator.registers (t.bytesAt (kind.place here ArtifactKind.aggregatorName)) line := by
  cases h with
  | present bytes hx hl =>
    rw [← bytes_of_existing hr hd hf hx, hl]
    rfl
  | added bytes _ hx hl =>
    rw [← bytes_of_existing hr hd hf hx, hl]
    rfl

/-- A line can be registered unless the path of the aggregator is too long. -/
theorem registers_ok {r : Except Failure Bool}
    (hshort : byteLength (root.join kind.aggregator).text ≤ FileTree.pathLimit)
    (h : Aggregator.Registers (root.join kind.aggregator) line t r t') :
    ∃ registered, r = .ok registered := by
  cases h with
  | unread e hx =>
    rw [existing_aggregator hr hd hf, if_neg (by omega)] at hx
    cases hx
  | unappended bytes e hx hl ha =>
    rw [append_aggregator hr hd hf, if_neg (by omega)] at ha
    cases ha
  | present => exact ⟨_, rfl⟩
  | added => exact ⟨_, rfl⟩

end Registering

/-- Making the directory of a kind in a plain project leaves it there. -/
theorem directory_of_makesBelow {r : Except Failure Unit} (hp : Plain t root here)
    (h : MakesBelow root kind.directory here t r t') (hr : r = .ok ()) :
    t'.entry? (kind.directory :: here) = some .directory ∧
      ∀ location, location ≠ kind.directory :: here → t'.entry? location = t.entry? location := by
  cases h with
  | made => exact ⟨FileTree.entry?_put_self (List.cons_ne_nil _ _) _,
      fun _ hne => FileTree.entry?_put_of_ne hne _⟩
  | there hn => exact ⟨(hp.directory kind).resolve_left hn, fun _ _ => rfl⟩
  | failed => cases hr

/-- What is known once the file of an artifact has been created in a plain project. -/
structure Placed (root : Path) (links : Nat) (here : Location) (kind : ArtifactKind)
    (entity : Entity) (artifact : Artifact) (t t' : FileTree) : Prop where
  /-- The root leads where it led. -/
  reaches : t'.Reaches root links here
  /-- There was nothing in the place of the file. -/
  free : t.entry? (kind.place here (kind.fileName entity)) = none
  /-- The file is there and holds the text of the artifact. -/
  target : t'.entry? (kind.place here (kind.fileName entity)) =
    some (.file (encode artifact.content))
  /-- The file can be looked up. -/
  short : byteLength (root.join artifact.path).text ≤ FileTree.pathLimit ∧
    byteLength (kind.fileName entity) ≤ FileTree.nameLimit
  /-- The directory is there. -/
  directory : t'.entry? (kind.directory :: here) = some .directory
  /-- Every other place is as it was. -/
  others (location : Location) (hf : location ≠ kind.place here (kind.fileName entity))
    (hd : location ≠ kind.directory :: here) : t'.entry? location = t.entry? location

theorem placed_of_create {links : Nat} {t₁ : FileTree} (hp : Plain t root here)
    (hr : t.Reaches root links here) (hw : entity.WellNamed)
    (hpath : artifact.path = kind.path entity)
    (hm : MakesParent (root.join artifact.path) t (.ok ()) t₁)
    (hc : t₁.create (root.join artifact.path) (encode artifact.content) = .ok t') :
    Placed root links here kind entity artifact t t' := by
  have hnd := kind.isName_directory
  have hnf : IsName (kind.fileName entity) := ArtifactKind.isName_fileName hw
  have hld := kind.byteLength_directory
  rw [hpath, kind.path_eq] at hm hc
  have hb := makesBelow_of_makesParent hr hnd hld hnf hm
  obtain ⟨hd₁, ho₁⟩ := directory_of_makesBelow hp hb rfl
  have hr₁ := hr.of_extends hb.extends
  rw [FileTree.create_pair hr₁ hnd hnf hld hd₁] at hc
  split at hc
  · cases hc
  next hshort =>
  split at hc
  · next hfree =>
    have hfd := kind.place_ne_directory kind here (kind.fileName entity)
    have ho₂ (location : Location) (hne : location ≠ kind.place here (kind.fileName entity)) :
        t'.entry? location = t₁.entry? location := by
      obtain rfl := Except.ok.inj hc
      exact FileTree.entry?_put_of_ne hne _
    exact {
      reaches := by
        obtain rfl := Except.ok.inj hc
        exact hr₁.of_extends (FileTree.extends_put hfree _)
      free := (ho₁ _ hfd).symm.trans hfree
      target := by
        obtain rfl := Except.ok.inj hc
        exact FileTree.entry?_put_self (kind.place_ne_nil _ _) _
      short := by
        rw [hpath, kind.path_eq]
        omega
      directory := (ho₂ _ hfd.symm).trans hd₁
      others := fun location hf hd => (ho₂ location hf).trans (ho₁ location hd) }
  · cases hc

theorem Placed.aggregator {links : Nat} (h : Placed root links here kind entity artifact t t')
    (hw : entity.WellNamed) :
    t'.entry? (kind.place here ArtifactKind.aggregatorName) =
      t.entry? (kind.place here ArtifactKind.aggregatorName) :=
  h.others _ (ArtifactKind.place_ne_aggregator hw kind).symm (kind.place_ne_directory kind here _)

/-- An artifact that is written in a plain project has its file created there, and then its line is
registered in an aggregator that is as it was. -/
theorem placed_of_writes {written : Written} (hp : Plain t root here) (hw : entity.WellNamed)
    (hpath : artifact.path = kind.path entity) (hagg : artifact.aggregator = kind.aggregator)
    (h : artifact.Writes root t (.ok written) t') :
    ∃ links t₁, Placed root links here kind entity artifact t t₁ ∧
      t₁.entry? (kind.place here ArtifactKind.aggregatorName) =
        t.entry? (kind.place here ArtifactKind.aggregatorName) ∧
      Aggregator.Registers (root.join kind.aggregator) artifact.registration t₁
        (.ok written.registered) t' := by
  obtain ⟨-, t₁, t₂, hm, hc, hreg⟩ := h.of_ok
  obtain ⟨links, hr⟩ := hp.reaches
  have hplaced := placed_of_create hp hr hw hpath hm hc
  exact ⟨links, t₂, hplaced, hplaced.aggregator hw, hagg ▸ hreg⟩

theorem gains_of_writes {written : Written} (hp : Plain t root here) (hw : entity.WellNamed)
    (hpath : artifact.path = kind.path entity) (hagg : artifact.aggregator = kind.aggregator)
    (h : artifact.Writes root t (.ok written) t') : Gains root here kind entity artifact t t' := by
  obtain ⟨links, t₁, hplaced, ha, hreg⟩ := placed_of_writes hp hw hpath hagg h
  have hf := hp.aggregator kind
  rw [← ha] at hf
  obtain ⟨hbytes, hplain, ho⟩ := registers_plain hplaced.reaches hplaced.directory hf hreg
  -- the aggregator is neither the file nor the directory
  have hfa : kind.place here (kind.fileName entity) ≠
      kind.place here ArtifactKind.aggregatorName := ArtifactKind.place_ne_aggregator hw kind
  have had := kind.place_ne_directory kind here ArtifactKind.aggregatorName
  exact {
    free := hplaced.free
    target := (ho _ hfa).trans hplaced.target
    short := hplaced.short
    directory := (ho _ had.symm).trans hplaced.directory
    aggregator := by
      rw [hbytes]
      exact congrArg (Aggregator.registered · _) (FileTree.bytesAt_congr ha)
    plain := hplain
    others := fun location hf ha hd => (ho location ha).trans (hplaced.others location hf hd) }

/-- Writing an artifact in a plain project tells whether its registration was missing. -/
theorem registered_of_writes {written : Written} (hp : Plain t root here) (hw : entity.WellNamed)
    (hpath : artifact.path = kind.path entity) (hagg : artifact.aggregator = kind.aggregator)
    (h : artifact.Writes root t (.ok written) t') :
    written.registered = !Aggregator.registers
      (t.bytesAt (kind.place here ArtifactKind.aggregatorName)) artifact.registration := by
  obtain ⟨links, t₁, hplaced, ha, hreg⟩ := placed_of_writes hp hw hpath hagg h
  have hf := hp.aggregator kind
  rw [← ha] at hf
  rw [← FileTree.bytesAt_congr ha]
  exact told_of_registers hplaced.reaches hplaced.directory hf hreg

/-- In a plain project an artifact can be written unless its file is there or a path is too long. -/
theorem ok_of_writes {r : Except Failure Written} (hp : Plain t root here) (hw : entity.WellNamed)
    (hpath : artifact.path = kind.path entity) (hagg : artifact.aggregator = kind.aggregator)
    (hfree : t.entry? (kind.place here (kind.fileName entity)) = none)
    (hname : byteLength (kind.fileName entity) ≤ FileTree.nameLimit)
    (hlength : byteLength (root.join artifact.path).text ≤ FileTree.pathLimit)
    (hlength' : byteLength (root.join kind.aggregator).text ≤ FileTree.pathLimit)
    (h : artifact.Writes root t r t') : ∃ written, r = .ok written := by
  obtain ⟨links, hr⟩ := hp.reaches
  have hnd := kind.isName_directory
  have hnf : IsName (kind.fileName entity) := ArtifactKind.isName_fileName hw
  have hld := kind.byteLength_directory
  cases h with
  | taken hh =>
    rw [hpath, kind.path_eq, FileTree.has_pair hr hnd hnf hld hname (hp.directory kind) hfree] at hh
    cases hh
  | homeless failure t₁ _ hm =>
    rw [hpath, kind.path_eq] at hm hlength
    have hdir := byteLength_join_directory_le root hnd (kind.fileName entity)
    generalize hres : (.error failure : Except Failure Unit) = res at hm
    cases makesBelow_of_makesParent hr hnd hld hnf hm with
    | made => cases hres
    | there => cases hres
    | failed e he =>
      obtain hlong | ⟨hn, hno⟩ := he
      · omega
      · rw [FileTree.isDirectory_name hr hnd hld (by omega)
          ((hp.directory kind).resolve_left hn)] at hno
        cases hno
  | uncreated e t₁ _ hm hc =>
    rw [hpath, kind.path_eq] at hm hc hlength
    have hb := makesBelow_of_makesParent hr hnd hld hnf hm
    obtain ⟨hd₁, ho₁⟩ := directory_of_makesBelow hp hb rfl
    have hfree₁ := (ho₁ _ (kind.place_ne_directory kind here _)).trans hfree
    rw [ArtifactKind.place] at hfree₁
    rw [FileTree.create_pair (hr.of_extends hb.extends) hnd hnf hld hd₁, if_neg (by omega),
      hfree₁] at hc
    cases hc
  | created r t₁ t₂ _ _ hm hc hreg =>
    have hplaced := placed_of_create hp hr hw hpath hm hc
    have hf := hp.aggregator kind
    rw [← hplaced.aggregator hw] at hf
    rw [hagg] at hreg
    obtain ⟨registered, rfl⟩ := registers_ok hplaced.reaches hplaced.directory hf hlength' hreg
    exact ⟨_, rfl⟩

/-! ## What stays -/

namespace Gains

theorem bytesAt_other (h : Gains root here kind entity artifact t t') (hk : kind' ≠ kind) :
    t'.bytesAt (kind'.place here ArtifactKind.aggregatorName) =
      t.bytesAt (kind'.place here ArtifactKind.aggregatorName) := by
  have hd : kind'.directory ≠ kind.directory := mt ArtifactKind.directory_inj.1 hk
  exact FileTree.bytesAt_congr (h.others _ (by simp [ArtifactKind.place, hd])
    (by simp [ArtifactKind.place, hd]) (kind'.place_ne_directory kind here _))

/-- A file that is no aggregator is as it was. -/
theorem file (h : Gains root here kind entity artifact t t') (hp : Plain t root here)
    {location : Location} {bytes : List UInt8} (hf : t.entry? location = some (.file bytes))
    (ha : location ≠ kind.place here ArtifactKind.aggregatorName) :
    t'.entry? location = some (.file bytes) := by
  rw [h.others location ?_ ha ?_, hf]
  · rintro rfl
    simp [h.free] at hf
  · rintro rfl
    rcases hp.directory kind with hd | hd <;> simp [hd] at hf

/-- A plain project in which an artifact has been written is plain. -/
theorem plain_of_writes (h : Gains root here kind entity artifact t t') (hp : Plain t root here)
    {r : Except Failure Written} (hw : artifact.Writes root t r t') : Plain t' root here where
  rooted := hw.rooted hp.rooted
  reaches := by
    obtain ⟨links, hr⟩ := hp.reaches
    exact ⟨links, hr.of_grows hw.grows⟩
  directory kind' := by
    by_cases hk : kind' = kind
    · subst hk
      exact .inr h.directory
    · have hd : kind'.directory ≠ kind.directory := mt ArtifactKind.directory_inj.1 hk
      have ho := h.others (kind'.directory :: here) (kind.place_ne_directory kind' here _).symm
        (kind.place_ne_directory kind' here _).symm (by simp [hd])
      rw [ho]
      exact hp.directory kind'
  aggregator kind' := by
    by_cases hk : kind' = kind
    · subst hk
      exact h.plain
    · have hd : kind'.directory ≠ kind.directory := mt ArtifactKind.directory_inj.1 hk
      have ho := h.others (kind'.place here ArtifactKind.aggregatorName)
        (by simp [ArtifactKind.place, hd]) (by simp [ArtifactKind.place, hd])
        (kind'.place_ne_directory kind here _)
      rw [ho]
      exact hp.aggregator kind'

end Gains

/-- The file of an artifact in a plain project can be read. -/
theorem Plain.read (hp : Plain t root here) (hn : entity.WellNamed) {bytes : List UInt8}
    (hpath : artifact.path = kind.path entity)
    (hshort : byteLength (root.join artifact.path).text ≤ FileTree.pathLimit ∧
      byteLength (kind.fileName entity) ≤ FileTree.nameLimit)
    (hf : t.entry? (kind.place here (kind.fileName entity)) = some (.file bytes)) :
    t.read (root.join artifact.path) = .ok bytes := by
  obtain ⟨links, hr⟩ := hp.reaches
  rw [hpath, kind.path_eq] at hshort ⊢
  exact FileTree.read_pair hr kind.isName_directory (ArtifactKind.isName_fileName hn)
    kind.byteLength_directory (hp.rooted _ _ _ hf) hshort.1 hshort.2 hf

end Groundwork
