import Groundwork.Proofs.Artifact.PrintedController
import Groundwork.Proofs.Command.Skeleton
import Groundwork.Proofs.Command.Success
import Groundwork.Proofs.Settings

/-!
# Making artifacts in a new project

What a new project holds is known (`New.contents`), and so is what a command does that makes an
artifact in it, from the root or from one of its directories, by whatever path (`New.Fresh`). The
project is found with its settings (`Fresh.exists_found`), it is plain (`Fresh.plain`), and its
aggregators hold no registration of an artifact (`New.registers_package`). So the command succeeds
and registers its artifact, unless it is to make the model that would take the place of the base of
all models (`New.make_in_new_project`).
-/

namespace Groundwork

open Text Groundwork.Path Workspace

/-- A path of the directory at `place`: it leads there and ends in a name. -/
structure FileTree.IsPathTo (t : FileTree) (p : Path) (place : Location) : Prop where
  /-- The path leads to the directory. -/
  reaches : ∃ links, t.Reaches p links place
  /-- The path ends in a name. -/
  ends : ∃ name above, p.EndsIn name above

theorem FileTree.Awaits.isPathTo {t : FileTree} {p : Path} {name : String} {above : List Char}
    {links : Nat} {here : Location} (h : t.Awaits p name above links here)
    (he : t.entry? (name :: here) = some .directory) : t.IsPathTo p (name :: here) :=
  ⟨⟨links, h.reaches he⟩, name, above, h.ends⟩

namespace New

/-! ## Aggregators -/

/-- The lines of the aggregator of a kind in a new project. -/
def package : ArtifactKind → List String
  | .model => Template.Library.modelPackage
  | .controller => Template.Library.controllerPackage

open Template.Library (ofLines)

theorem encode_ofLines (lines : List String) : encode (ofLines lines) = Aggregator.block lines := by
  induction lines with
  | nil => rfl
  | cons line lines ih =>
    rw [Aggregator.block, List.flatMap_cons, ← Aggregator.block, ← ih]
    simp [ofLines, encode, encodeChars]
    rfl

theorem gap_block (lines : List String) : Aggregator.gap (Aggregator.block lines) = [] := by
  rcases List.eq_nil_or_concat lines with rfl | ⟨lines, line, rfl⟩
  · rfl
  · rw [Aggregator.block, List.concat_eq_append, List.flatMap_append, List.flatMap_singleton,
      Aggregator.gap_append_newline]

variable {kind : ArtifactKind} {entity : Entity}

/-- The registration of a model has no comma. -/
theorem comma_not_mem_registration (h : entity.WellNamed) :
    ',' ∉ (ArtifactKind.model.registration entity).toList := by
  have hcomma : ¬48 ≤ ','.toNat := by decide
  rw [ArtifactKind.toList_registration, List.mem_append, List.mem_append, List.mem_cons,
    List.mem_append]
  rintro (hm | hm | hm | hm | hm)
  · simp at hm
  · exact hcomma (h.fileStem_signs ',' hm)
  · simp at hm
  · simp at hm
  · exact hcomma (h.typeName_signs ',' hm).1

/-- The aggregators of a new project register no artifact. -/
theorem registers_package (h : entity.WellNamed) :
    Aggregator.registers (encode (ofLines (package kind))) (kind.registration entity) = false := by
  have hline : Aggregator.IsLine (kind.registration entity) := ArtifactKind.isLine_registration h
  have hnil : trimEndChars [] ≠ (kind.registration entity).toList :=
    Aggregator.trimEndChars_nil_ne hline.ne_empty
  rw [Bool.eq_false_iff, ne_eq, Aggregator.registers_iff hline.ne_empty, encode_ofLines]
  rintro ⟨l, hl, ht⟩
  cases kind with
  | model =>
    have hbase : Aggregator.IsLine "from .base import Base, db" := by
      constructor <;> decide
    have hblock : Aggregator.block (package .model) =
        encode "from .base import Base, db" ++ [10] := by
      simp [Aggregator.block, package, Template.Library.modelPackage]
    rw [hblock, Aggregator.spelled_line hbase, List.mem_cons, List.mem_singleton] at hl
    obtain rfl | rfl := hl
    · rw [hbase.trimmed] at ht
      exact comma_not_mem_registration h (ht ▸ by decide)
    · exact hnil ht
  | controller =>
    obtain rfl : l = [] := List.mem_singleton.1 hl
    exact hnil ht

/-- An aggregator of a new project after a registration. -/
theorem registered_package (h : entity.WellNamed) :
    Aggregator.registered (encode (ofLines (package kind))) (kind.registration entity) =
      encode (ofLines (package kind ++ [kind.registration entity])) := by
  rw [Aggregator.registered, registers_package h, if_neg Bool.false_ne_true,
    Aggregator.addition_eq, encode_ofLines, gap_block, encode_ofLines]
  simp [Aggregator.block]

/-! ## New projects -/

/-- The directories of the project at `root` when it is new: the root and those below it. -/
def directories (root : Path) : List Path :=
  root :: ["models", "controllers", "routes", "templates"].map fun name => root.join ⟨name⟩

/-- The directories below the root have names that are not too long. -/
theorem named_directories : ∀ name ∈ ["models", "controllers", "routes", "templates"],
    IsName name ∧ byteLength name ≤ FileTree.nameLimit := by
  decide

/-- The project called `project` is new: it is in the directory at `place`, a path of which is
`root`, and has what a new project holds. -/
structure Fresh (t : FileTree) (root : Path) (place : Location) (project : String) : Prop where
  /-- The tree is rooted. -/
  rooted : t.Rooted
  /-- The path is one of the directory. -/
  isPathTo : t.IsPathTo root place
  /-- The directory holds what a new project consists of. -/
  holds : t.Holds place (contents project)

namespace Fresh

variable {t : FileTree} {root other start : Path} {place : Location} {project : String}
  {links : Nat}

theorem aggregator (h : Fresh t root place project) (kind : ArtifactKind) :
    t.entry? (kind.place place ArtifactKind.aggregatorName) =
      some (.file (encode (ofLines (package kind)))) := by
  cases kind
  · exact (h.holds.below ["__init__.py", "models"] (by simp)).trans rfl
  · exact (h.holds.below ["__init__.py", "controllers"] (by simp)).trans rfl

theorem plain (h : Fresh t root place project) (hr : t.Reaches other links place) :
    Plain t other place where
  rooted := h.rooted
  reaches := ⟨links, hr⟩
  directory kind := .inr <| by
    cases kind
    · exact (h.holds.below ["models"] (by simp)).trans rfl
    · exact (h.holds.below ["controllers"] (by simp)).trans rfl
  aggregator kind := .inr ⟨_, h.aggregator kind⟩

theorem bytesAt (h : Fresh t root place project) (kind : ArtifactKind) :
    t.bytesAt (kind.place place ArtifactKind.aggregatorName) =
      encode (ofLines (package kind)) := by
  rw [FileTree.bytesAt, h.aggregator kind]

/-- The place of the file of an artifact is free, unless it is that of the base of all models. -/
theorem free (h : Fresh t root place project) (hw : entity.WellNamed)
    (hbase : ¬(kind = .model ∧ entity.fileStem = "base")) :
    t.entry? (kind.place place (kind.fileName entity)) = none := by
  have haggregator : kind.fileName entity ≠ ArtifactKind.aggregatorName :=
    ArtifactKind.fileName_ne_aggregator hw
  refine (h.holds.below [kind.fileName entity, kind.directory] (by simp)).trans ?_
  rw [List.lookup_eq_none_iff]
  cases kind with
  | model =>
    have hname :
        ArtifactKind.model.fileName entity ≠ ArtifactKind.model.fileName ⟨"Base", "base"⟩ :=
      fun he => hbase ⟨rfl, ArtifactKind.fileName_inj.1 he⟩
    have hfile : ArtifactKind.model.fileName ⟨"Base", "base"⟩ = "base.py" := rfl
    simp_all [contents, ArtifactKind.directory, ArtifactKind.aggregatorName]
  | controller =>
    simp_all [contents, ArtifactKind.directory, ArtifactKind.aggregatorName]

/-- What the aggregator holds once an artifact has been made. -/
theorem read_aggregator {t' : FileTree} {artifact : Artifact} (h : Fresh t root place project)
    (hw : entity.WellNamed) (hreg : artifact.registration = kind.registration entity)
    (hgains : Gains other place kind entity artifact t t') (hr : t'.Reaches root links place)
    (hl : byteLength (root.join kind.aggregator).text ≤ FileTree.pathLimit) :
    t'.read (root.join kind.aggregator) =
      .ok (encode (ofLines (package kind ++ [kind.registration entity]))) := by
  have hbytes := hgains.aggregator
  rw [h.bytesAt, hreg, registered_package hw] at hbytes
  have hne : t'.bytesAt (kind.place place ArtifactKind.aggregatorName) ≠ [] := by
    rw [hbytes, encode_ofLines]
    simp [Aggregator.block]
  rw [kind.aggregator_eq] at hl ⊢
  rw [← hbytes]
  exact FileTree.read_pair hr kind.isName_directory ArtifactKind.isName_aggregator
    kind.byteLength_directory hgains.directory hl ArtifactKind.byteLength_aggregatorName
    (FileTree.entry?_of_bytesAt hne)

theorem resolve_marker (h : Fresh t root place project) (hr : t.Reaches other links place)
    (hl : byteLength (other.join Project.marker).text ≤ FileTree.pathLimit) :
    t.resolve .look (other.join Project.marker) = .ok ⟨Project.marker.text :: place,
      some (.file (encode (Settings.manifest project))), false⟩ := by
  have he : t.entry? (Project.marker.text :: place) =
      some (.file (encode (Settings.manifest project))) :=
    (h.holds.below [Project.marker.text] (by simp)).trans rfl
  have hname : Project.marker = ⟨Project.marker.text⟩ := rfl
  rw [hname, FileTree.resolve_short_name hr isName_marker (by decide) hl (by simp [he]), he]

/-- The project is found at a path of its directory from wherever this path is the first to try. -/
theorem found (h : Fresh t root place project) (hr : t.Reaches other links place)
    (hl : byteLength (other.join Project.marker).text ≤ FileTree.pathLimit)
    (hu : ∃ below above, start.ancestors = below ++ other :: above ∧
      ∀ directory ∈ below, t.Unmarked directory) :
    Project.Found start other { name := project } t := by
  have hresolve := h.resolve_marker hr hl
  have hfile : t.isFile (other.join Project.marker) = true := by
    rw [FileTree.isFile, FileTree.find?, hresolve]
  exact {
    located := locate_of_settled ⟨hu, hfile⟩
    marked := ⟨encode (Settings.manifest project), Settings.manifest project,
      by rw [FileTree.read, hresolve]; rfl, decode?_encode _, Settings.ofText?_manifest project⟩ }

/-- The directories below the root hold nothing by the name of the marker file. -/
theorem unmarked (h : Fresh t root place project) {name : String}
    (hn : name ∈ ["models", "controllers", "routes", "templates"]) :
    t.Unmarked (root.join ⟨name⟩) := by
  obtain ⟨links, hr⟩ := h.isPathTo.reaches
  have hentry : (contents project).lookup [name] = some .directory ∧
      (contents project).lookup [Project.marker.text, name] = none := by
    simp only [List.mem_cons, List.not_mem_nil, or_false] at hn
    obtain rfl | rfl | rfl | rfl := hn <;> exact ⟨rfl, rfl⟩
  have hname := named_directories name hn
  have hdirectory := (h.holds.below [name] (by simp)).trans hentry.1
  exact unmarked_of_missing (hr.join hname.1 hname.2 hdirectory)
    ((h.holds.below [Project.marker.text, name] (by simp)).trans hentry.2)

/-- The project is found from its root and from the directories below it, at a path of its directory
that is no longer than the one that the directories are told by. -/
theorem exists_found (h : Fresh t root place project) (hs : start ∈ directories root)
    (hl : byteLength (root.join Project.marker).text ≤ FileTree.pathLimit) :
    ∃ other links, t.Reaches other links place ∧
      Project.Found start other { name := project } t ∧
      ∀ rest : Path, isAbsoluteChars rest.text.toList = false →
        byteLength (other.join rest).text ≤ byteLength (root.join rest).text := by
  obtain ⟨⟨links, hr⟩, name, above, hends⟩ := h.isPathTo
  obtain rfl | hs := List.mem_cons.1 hs
  · exact ⟨start, links, hr, h.found hr hl ⟨[], start.parents, rfl, by simp⟩,
      fun _ _ => Nat.le_refl _⟩
  · obtain ⟨d, hd, rfl⟩ := List.mem_map.1 hs
    have hn : IsName d := (named_directories d hd).1
    have hle (rest : Path) (ha : isAbsoluteChars rest.text.toList = false) :=
      hends.byteLength_cut_join_le ha
    obtain ⟨parents, hparents⟩ : ∃ parents, (root.join ⟨d⟩).parents = hends.cut :: parents := by
      have hparent := hends.parent?_join hn
      rw [parent?, List.head?_eq_some_iff] at hparent
      exact hparent
    refine ⟨hends.cut, links, hr.cut hends, h.found (hr.cut hends) ?_ ?_, hle⟩
    · exact Nat.le_trans (hle Project.marker isName_marker.not_absolute) hl
    · refine ⟨[root.join ⟨d⟩], parents, by rw [ancestors, hparents]; rfl, ?_⟩
      rintro directory hm
      obtain rfl := List.mem_singleton.1 hm
      exact h.unmarked hd

/-! ## Making artifacts -/

variable {w w' : Workspace} {make : Make} {fields : List Field} {relationships : List Relationship}
  {language : Language} {report : Report}

/-- The request that a command spells in a new project. -/
def request (make : Make) (entity : Entity) (fields : List Field)
    (relationships : List Relationship) : Request :=
  ⟨entity, fields, relationships, make.timestamps.getD true⟩

section

variable (h : Fresh w.files root place project) (hs : start ∈ directories root)
  (hentity : Entity.parse make.name = .ok entity)
  (hfields : Field.parseList make.fields = .ok fields)
  (hrelationships : Relationship.parseList make.relationships = .ok relationships)
  (hname : byteLength (make.kind.fileName entity) ≤ FileTree.nameLimit)
  (hpath : byteLength (root.join (make.kind.path entity)).text ≤ FileTree.pathLimit)
  (haggregator : byteLength (root.join make.kind.aggregator).text ≤ FileTree.pathLimit)

include h hs hentity hfields hrelationships haggregator

/-- The artifact is prepared in the project, at a path of its directory that is not too long. -/
theorem prepared : ∃ other links lines, w.files.Reaches other links place ∧
    byteLength (other.join (make.kind.path entity)).text ≤
      byteLength (root.join (make.kind.path entity)).text ∧
    byteLength (other.join make.kind.aggregator).text ≤ FileTree.pathLimit ∧
    make.prepared start w = .ok (⟨other, { name := project }⟩,
      (request make entity fields relationships).artifact make.kind (ofLines lines)) ∧
    (make.kind = .model → lines = (request make entity fields relationships).modelLines) := by
  have hshort (kind : ArtifactKind) : byteLength Project.marker.text ≤
      byteLength kind.aggregator.text := by
    cases kind <;> decide
  have hrelative : isAbsoluteChars make.kind.aggregator.text.toList = false := by
    rw [make.kind.aggregator_eq]
    exact pair_not_absolute make.kind.isName_directory
  have hmarker : byteLength (root.join Project.marker).text ≤ FileTree.pathLimit := by
    have := hshort make.kind
    rw [byteLength_join root hrelative] at haggregator
    rw [byteLength_join root isName_marker.not_absolute]
    omega
  obtain ⟨other, links, hr, hfound, hle⟩ := h.exists_found hs hmarker
  have hspells : make.Spells { name := project } (request make entity fields relationships) :=
    ⟨hentity, hfields, hrelationships, rfl⟩
  have hrelative' : isAbsoluteChars (make.kind.path entity).text.toList = false := by
    rw [make.kind.path_eq]
    exact pair_not_absolute make.kind.isName_directory
  have hrender : ∃ source lines, Template.Library.source? make.kind.templateName = some source ∧
      Template.render source (request make entity fields relationships).scope =
        .ok (ofLines lines) ∧
      (make.kind = .model → lines = (request make entity fields relationships).modelLines) := by
    cases make.kind with
    | model => exact ⟨_, _, Request.source?_model, Request.render_model _, fun _ => rfl⟩
    | controller =>
      exact ⟨_, _, Request.source?_controller, Request.render_controller _, fun hk => nomatch hk⟩
  obtain ⟨source, lines, hsource, hrender, hmodel⟩ := hrender
  exact ⟨other, links, lines, hr, hle _ hrelative', Nat.le_trans (hle _ hrelative) haggregator,
    Make.prepared_of_render hfound rfl hspells hsource hrender, hmodel⟩

include hname hpath

/-- The model that would take the place of the base of all models is not made. -/
theorem make_base [Explanations] (hkind : make.kind = .model) (hbase : entity.fileStem = "base")
    (hrun : (make.run ⟨start, language⟩ : StateM Workspace Report) w = (report, w')) :
    (∃ message, report.outcome = .failure .alreadyExists message) ∧ w'.files = w.files := by
  obtain ⟨other, links, lines, hr, hle, hle', hprepared, -⟩ :=
    h.prepared hs hentity hfields hrelationships haggregator
  have hfile : w.files.entry? (make.kind.place place (make.kind.fileName entity)) =
      some (.file (encode (ofLines Template.Library.modelBase))) := by
    have he : ArtifactKind.fileName .model entity = ArtifactKind.fileName .model ⟨"Base", "base"⟩ :=
      ArtifactKind.fileName_inj.2 hbase
    rw [hkind, he]
    exact (h.holds.below ["base.py", "models"] (by simp)).trans rfl
  have hruns := Make.runs_of_run make ⟨start, language⟩ w
  rw [hrun] at hruns
  obtain ⟨ho, hsame⟩ := hruns.taken (h.plain hr) hprepared hentity
    ⟨hname, Nat.le_trans hle hpath, hle'⟩ hfile
  exact ⟨⟨_, ho⟩, hsame⟩

/-- Every other artifact is made and registered. -/
theorem make_succeeds [Explanations]
    (hbase : ¬(make.kind = .model ∧ entity.fileStem = "base"))
    (hrun : (make.run ⟨start, language⟩ : StateM Workspace Report) w = (report, w')) :
    (∃ artifact written,
      report = make.reported ⟨start, language⟩ (.ok (artifact, written)) ∧
        written.registered = true) ∧
    w'.files.read (root.join make.kind.aggregator) =
      .ok (encode (ofLines (package make.kind ++ [make.kind.registration entity]))) ∧
    ∃ lines, w'.files.read (root.join (make.kind.path entity)) = .ok (encode (ofLines lines)) ∧
      (make.kind = .model → lines = (request make entity fields relationships).modelLines) := by
  obtain ⟨other, links, lines, hr, hle, hle', hprepared, hmodel⟩ :=
    h.prepared hs hentity hfields hrelationships haggregator
  have hw := Entity.wellNamed_of_parse hentity
  have hplain := h.plain hr
  have hfree := h.free hw hbase
  generalize hartifact : (request make entity fields relationships).artifact make.kind
    (ofLines lines) = artifact at hprepared
  obtain hpath' : artifact.path = make.kind.path entity := hartifact ▸ rfl
  obtain hagg' : artifact.aggregator = make.kind.aggregator := hartifact ▸ rfl
  obtain hreg' : artifact.registration = make.kind.registration entity := hartifact ▸ rfl
  obtain hcontent : artifact.content = ofLines lines := hartifact ▸ rfl
  have hruns := Make.runs_of_run make ⟨start, language⟩ w
  rw [hrun] at hruns
  obtain ⟨failure, hwrites, -⟩ | ⟨written, hwrites, hreport⟩ := hruns.writes_of_prepared hprepared
  · obtain ⟨written, hok⟩ := ok_of_writes hplain hw hpath' hagg' hfree hname
      (by rw [hpath']; omega) hle' hwrites
    cases hok
  · have hgains := gains_of_writes hplain hw hpath' hagg' hwrites
    obtain ⟨links', hroot⟩ := h.isPathTo.reaches
    replace hroot := hroot.of_grows hwrites.grows
    refine ⟨⟨artifact, written, hreport, ?_⟩, ?_, lines, ?_, hmodel⟩
    · rw [registered_of_writes hplain hw hpath' hagg' hwrites, h.bytesAt, hreg',
        registers_package hw]
      rfl
    · exact h.read_aggregator hw hreg' hgains hroot haggregator
    · rw [make.kind.path_eq] at hpath ⊢
      rw [← hcontent]
      exact FileTree.read_pair hroot make.kind.isName_directory (ArtifactKind.isName_fileName hw)
        make.kind.byteLength_directory hgains.directory hpath hname hgains.target

end

end Fresh

/-! ## After the project has been made -/

theorem text_package (kind : ArtifactKind) (line : String) :
    ofLines (package kind ++ [line]) =
      (if kind = .model then "from .base import Base, db\n" else "") ++ line ++ "\n" := by
  apply String.toList_inj.1
  cases kind <;>
    simp [ofLines, package, Template.Library.modelPackage, Template.Library.controllerPackage]

/-- **A new project accepts every artifact.** After a project has been made where nothing was, by
whatever path `root` its directory is told, a command that makes an artifact in one of the
directories of the project and whose specifications can be read does so, if the name of the file and
the paths are not too long: the artifact is registered, its aggregator has its registration after
what it had, and a model has columns for the times of creation and change unless the command asks
for others. Only a model that would take the place of the base of all models is refused, and nothing
is changed. -/
theorem make_in_new_project [Explanations] {w made after : Workspace} {new : New}
    {setting : Setting} {told report : Report} {make : Make} {language : Language}
    {root start : Path} {place : Location} {slash : Bool} {entity : Entity} {fields : List Field}
    {relationships : List Relationship} (hrooted : w.files.Rooted)
    (hfree : w.files.resolve .put (setting.directory.join new.path) = .ok ⟨place, none, slash⟩)
    (hnew : (new.run setting : StateM Workspace Report) w = (told, made))
    (hmade : told.outcome = .success (setting.directory.join new.path))
    (hroot : root = setting.directory.join new.path ∨ made.files.IsPathTo root place)
    (hstart : start ∈ directories root) (hentity : Entity.parse make.name = .ok entity)
    (hfields : Field.parseList make.fields = .ok fields)
    (hrelationships : Relationship.parseList make.relationships = .ok relationships)
    (hname : byteLength (make.kind.fileName entity) ≤ FileTree.nameLimit)
    (hpath : byteLength (root.join (make.kind.path entity)).text ≤ FileTree.pathLimit)
    (haggregator : byteLength (root.join make.kind.aggregator).text ≤ FileTree.pathLimit)
    (hmake : (make.run ⟨start, language⟩ : StateM Workspace Report) made = (report, after)) :
    if make.kind = .model ∧ entity.fileStem = "base" then
      (∃ message, report.outcome = .failure .alreadyExists message) ∧ after.files = made.files
    else
      (∃ artifact written,
        report = make.reported ⟨start, language⟩ (.ok (artifact, written)) ∧
          written.registered = true) ∧
      after.files.read (root.join make.kind.aggregator) =
        .ok (encode ((if make.kind = .model then "from .base import Base, db\n" else "") ++
          make.kind.registration entity ++ "\n")) ∧
      ∃ lines, after.files.read (root.join (make.kind.path entity)) = .ok (encode (ofLines lines)) ∧
        (make.kind = .model → make.timestamps = none → Request.timestampLines <:+: lines) := by
  obtain ⟨project, above, links, here, rfl, ha, hholds⟩ :=
    holds_of_success hrooted hfree hnew hmade
  have hrooted' : made.files.Rooted := by
    have hk := keeps_new (R := FileTree.StaysRooted) new setting w
    rw [hnew] at hk
    exact hk hrooted
  have hfresh : Fresh made.files root (project :: here) project := by
    refine ⟨hrooted', ?_, hholds⟩
    obtain rfl | hroot := hroot
    · exact ha.isPathTo hholds.directory
    · exact hroot
  split
  · next hbase =>
    exact hfresh.make_base hstart hentity hfields hrelationships hname hpath haggregator hbase.1
      hbase.2 hmake
  · next hbase =>
    obtain ⟨hreport, hread, lines, hfile, hmodel⟩ := hfresh.make_succeeds hstart hentity hfields
      hrelationships hname hpath haggregator hbase hmake
    refine ⟨hreport, by rw [hread, text_package], lines, hfile, fun hkind ht => ?_⟩
    rw [hmodel hkind]
    exact Request.timestampLines_infix (by simp [Fresh.request, ht])

/-! ### A project in an empty tree -/

/-- The command that makes the project `loja`. -/
def makeLoja : New := ⟨⟨"loja"⟩⟩

/-- The root directory, in English. -/
def atRoot : Setting := ⟨⟨"/"⟩, .english⟩

/-- The path of the project in the root directory. -/
def loja : Path := atRoot.directory.join makeLoja.path

theorem awaits_loja : FileTree.empty.Awaits loja "loja" "/loja".toList FileTree.linkLimit [] where
  ends := ⟨by decide, ⟨0, by decide⟩, [[]], by decide⟩
  noNull := by decide
  short := by decide
  shortName := by decide
  descends := ⟨[], by decide, by rw [FileTree.descend]⟩

theorem resolve_loja : FileTree.empty.resolve .put loja = .ok ⟨["loja"], none, false⟩ := by
  rw [awaits_loja.resolve_eq rfl (by simp [FileTree.Purpose.follows])]
  rfl

theorem byteLength_loja {rest : Path} (ha : isAbsoluteChars rest.text.toList = false)
    (hl : byteLength rest.text ≤ 100) : byteLength (loja.join rest).text ≤ FileTree.pathLimit :=
  FileTree.short_join (by decide) ha hl

theorem run_makeLoja : ∃ told made,
    (makeLoja.run atRoot : StateM Workspace Report) ⟨FileTree.empty, []⟩ =
      (told, made) ∧ told.outcome = .success loja := by
  obtain ⟨made, hcreate, -⟩ := run_create (w := ⟨FileTree.empty, []⟩) FileTree.rooted_empty
    awaits_loja rfl (by decide) (by decide) (byteLength_loja (by decide) (by decide))
    (short_files (by decide) "loja")
  obtain ⟨told, hrun⟩ : ∃ told, (makeLoja.run atRoot : StateM Workspace Report)
      ⟨FileTree.empty, []⟩ = (told, made) ∧ told.outcome = .success loja :=
    success_of_create hcreate
  exact ⟨told, made, hrun⟩

theorem make_in_loja : ∃ told made report after,
    (makeLoja.run atRoot : StateM Workspace Report) ⟨FileTree.empty, []⟩ =
      (told, made) ∧ told.outcome = .success loja ∧
    (Make.makeProduct.1.run ⟨loja.join ⟨"models"⟩, .english⟩ : StateM Workspace Report) made =
      (report, after) ∧
    (∃ artifact written, report = Make.makeProduct.1.reported ⟨loja.join ⟨"models"⟩, .english⟩
      (.ok (artifact, written)) ∧ written.registered = true) ∧
    after.files.read (loja.join ⟨"models/__init__.py"⟩) =
      .ok (encode "from .base import Base, db\nfrom .produto import Produto\n") := by
  obtain ⟨told, made, hnew, hmade⟩ := run_makeLoja
  obtain ⟨report, after, hmake⟩ : ∃ report after,
      (Make.makeProduct.1.run ⟨loja.join ⟨"models"⟩, .english⟩ : StateM Workspace Report) made =
        (report, after) := ⟨_, _, rfl⟩
  have hmaking := @make_in_new_project _ ⟨FileTree.empty, []⟩ made after makeLoja atRoot told report
    Make.makeProduct.1 .english loja (loja.join ⟨"models"⟩) ["loja"] false ⟨"Produto", "produto"⟩
    [] [] FileTree.rooted_empty resolve_loja hnew hmade (.inl rfl) (.tail _ (.head _))
    Make.spells_makeProduct.entity rfl rfl (by decide) (byteLength_loja (by decide) (by decide))
    (byteLength_loja (by decide) (by decide)) hmake
  rw [if_neg (by decide)] at hmaking
  obtain ⟨hreport, hread, -⟩ := hmaking
  exact ⟨told, made, report, after, hnew, hmade, hmake, hreport, hread.trans (by decide)⟩

end New

end Groundwork
