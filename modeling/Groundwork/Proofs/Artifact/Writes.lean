import Groundwork.Artifact.Writing
import Groundwork.Proofs.Files.Rooted

/-!
# What writing an artifact comes to

`Artifact.Writes root artifact t r t'` says that writing `artifact` below `root` takes the files `t`
to `t'` with the result `r`, with one rule for each way in which it can end, and
`Aggregator.Registers` says the same of registering a line. Every run obeys the rules
(`writes_of_write`, `registers_of_register`), so what holds of writing is shown rule by rule and
nothing else has to look at the computation again.
-/

namespace Groundwork

open Workspace

/-! ## Registering a line -/

/-- The bytes that a line is registered in: those of the file at a path, and none if it is
missing. -/
def FileTree.existing (t : FileTree) (p : Path) : Except FileError (List UInt8) :=
  match t.read p with
  | .ok bytes => .ok bytes
  | .error .notFound => .ok []
  | .error e => .error e

/-- Registering `line` in the aggregator at `p` takes the files `t` to other files with a result. -/
inductive Aggregator.Registers (p : Path) (line : String) (t : FileTree) :
    Except Failure Bool → FileTree → Prop
  /-- The aggregator cannot be read. -/
  | unread (e : FileError) (h : t.existing p = .error e) :
    Registers p line t (.error (.file p e)) t
  /-- The aggregator holds the line already. -/
  | present (bytes : List UInt8) (h : t.existing p = .ok bytes)
    (hl : Aggregator.registers bytes line = true) : Registers p line t (.ok false) t
  /-- The aggregator cannot be appended to. -/
  | unappended (bytes : List UInt8) (e : FileError) (h : t.existing p = .ok bytes)
    (hl : Aggregator.registers bytes line = false)
    (ha : t.append p (Aggregator.addition bytes line) = .error e) :
    Registers p line t (.error (.file p e)) t
  /-- The aggregator has gained the line. -/
  | added (bytes : List UInt8) (t' : FileTree) (h : t.existing p = .ok bytes)
    (hl : Aggregator.registers bytes line = false)
    (ha : t.append p (Aggregator.addition bytes line) = .ok t') : Registers p line t (.ok true) t'

/-- What registering a line does once the bytes of the aggregator are known. -/
theorem run_register (p : Path) (line : String) (w : Workspace) :
    (Action.register p line : Action (StateM Workspace) Bool).run w =
      match w.files.existing p with
      | .error e => (.error (.file p e), w)
      | .ok bytes =>
        if Aggregator.registers bytes line then (.ok false, w)
        else
          (Action.attempt p (FileStore.append p (Aggregator.addition bytes line)) >>= fun _ =>
            pure true : Action (StateM Workspace) Bool).run w := by
  rw [Action.register, run_andThen, run_step, run_read]
  rcases hr : w.files.read p with e | bytes
  · simp only [FileTree.existing, hr]
    cases e <;> rfl
  · simp only [FileTree.existing, hr, pure_bind]
    split <;> rfl

theorem registers_of_register {p : Path} {line : String} {w w' : Workspace}
    {r : Except Failure Bool}
    (h : (Action.register p line : Action (StateM Workspace) Bool).run w = (r, w')) :
    Aggregator.Registers p line w.files r w'.files := by
  rw [run_register] at h
  rcases hb : w.files.existing p with e | bytes
  · simp only [hb] at h
    cases h
    exact .unread e hb
  · simp only [hb] at h
    rcases hl : Aggregator.registers bytes line
    · simp only [hl, Bool.false_eq_true, if_false, run_andThen, run_attempt, run_append] at h
      rcases ha : w.files.append p (Aggregator.addition bytes line) with e | t
      · simp only [change, ha, mapError_error] at h
        cases h
        exact .unappended bytes e hb hl ha
      · simp only [change, ha, mapError_ok, run_ok] at h
        cases h
        exact .added bytes t hb hl ha
    · simp only [hl, if_true] at h
      cases h
      exact .present bytes hb hl

/-! ## Creating the file -/

/-- Making the directory above `p` takes the files `t` to `t'` with the result `r`. -/
def MakesParent (p : Path) (t : FileTree) (r : Except Failure Unit) (t' : FileTree) : Prop :=
  ∃ w w', w.files = t ∧ w'.files = t' ∧
    (Action.makeParent p : Action (StateM Workspace) Unit).run w = (r, w')

/-- The failure to create a file at a path. -/
def Failure.ofCreate (p : Path) (e : FileError) : Failure :=
  if e = .alreadyThere then .alreadyExists p else .file p e

theorem run_writeNew (p : Path) (content : String) (w : Workspace) :
    (Action.writeNew p content : Action (StateM Workspace) Unit).run w =
      ((change (·.create p (Text.encode content)) w).1.mapError (Failure.ofCreate p),
        (change (·.create p (Text.encode content)) w).2) := by
  rw [Action.writeNew, run_andThen, run_step, run_create]
  rcases hc : w.files.create p (Text.encode content) with e | t
  · simp only [change, hc]
    cases e <;> rfl
  · simp only [change, hc]
    rfl

section

variable {R : FileTree → FileTree → Prop} [AllowsAdding R]

theorem keeps_makeParent (p : Path) :
    Keeps R (Action.makeParent p : Action (StateM Workspace) Unit).run := by
  unfold Action.makeParent
  split
  · exact keeps_attempt _ (keeps_makeDirectories _)
  · exact keeps_ok _

theorem keeps_writeNew (p : Path) (content : String) :
    Keeps R (Action.writeNew p content : Action (StateM Workspace) Unit).run := by
  refine keeps_andThen (keeps_step (keeps_create p _)) fun r => ?_
  split
  · exact keeps_ok _
  · exact keeps_throw _
  · exact keeps_throw _

end

/-! ## Writing an artifact -/

/-- Writing an artifact below `root` takes the files `t` to other files with a result. -/
inductive Artifact.Writes (root : Path) (artifact : Artifact) (t : FileTree) :
    Except Failure Written → FileTree → Prop
  /-- There is something at the path of the artifact already. -/
  | taken (h : t.has (root.join artifact.path) = true) :
    Writes root artifact t (.error (.alreadyExists (root.join artifact.path))) t
  /-- The directory of the artifact cannot be made. -/
  | homeless (failure : Failure) (t₁ : FileTree) (h : t.has (root.join artifact.path) = false)
    (hp : MakesParent (root.join artifact.path) t (.error failure) t₁) :
    Writes root artifact t (.error failure) t₁
  /-- The file of the artifact cannot be created. -/
  | uncreated (e : FileError) (t₁ : FileTree) (h : t.has (root.join artifact.path) = false)
    (hp : MakesParent (root.join artifact.path) t (.ok ()) t₁)
    (hc : t₁.create (root.join artifact.path) (Text.encode artifact.content) = .error e) :
    Writes root artifact t (.error (.ofCreate (root.join artifact.path) e)) t₁
  /-- The file of the artifact is created, and the result is that of registering the artifact. -/
  | created (r : Except Failure Bool) (t₁ t₂ t₃ : FileTree)
    (h : t.has (root.join artifact.path) = false)
    (hp : MakesParent (root.join artifact.path) t (.ok ()) t₁)
    (hc : t₁.create (root.join artifact.path) (Text.encode artifact.content) = .ok t₂)
    (hr : Aggregator.Registers (root.join artifact.aggregator) artifact.registration t₂ r t₃) :
    Writes root artifact t
      (r.map fun registered =>
        ⟨root.join artifact.path, root.join artifact.aggregator, registered⟩) t₃

theorem writes_of_write {root : Path} {artifact : Artifact} {w w' : Workspace}
    {r : Except Failure Written}
    (h : (artifact.write root : Action (StateM Workspace) Written).run w = (r, w')) :
    artifact.Writes root w.files r w'.files := by
  rw [Artifact.write, run_andThen, run_step, run_has] at h
  rcases hh : w.files.has (root.join artifact.path)
  · simp only [hh, Bool.false_eq_true, if_false] at h
    obtain ⟨e, hp, rfl⟩ | ⟨u, w₁, hp, h⟩ := andThen_cases h
    · exact .homeless e _ hh ⟨w, w', rfl, rfl, hp⟩
    · replace hp : MakesParent (root.join artifact.path) w.files (.ok ()) w₁.files :=
        ⟨w, w₁, rfl, rfl, hp⟩
      rw [run_andThen, run_writeNew] at h
      rcases hc : w₁.files.create (root.join artifact.path) (Text.encode artifact.content)
        with e | t
      · simp only [change, hc, mapError_error] at h
        obtain ⟨rfl, rfl⟩ := Prod.mk.inj h
        exact .uncreated e _ hh hp hc
      · simp only [change, hc, mapError_ok, run_andThen, run_note] at h
        rcases hr : (Action.register (root.join artifact.aggregator) artifact.registration :
          Action (StateM Workspace) Bool).run _ with ⟨e | registered, w₂⟩
        · rw [hr] at h
          obtain ⟨rfl, rfl⟩ := Prod.mk.inj h
          exact .created (.error e) _ _ _ hh hp hc (registers_of_register hr)
        · rw [hr] at h
          -- the two notes differ in their text only
          have hw : r = .ok ⟨root.join artifact.path, root.join artifact.aggregator, registered⟩ ∧
              w'.files = w₂.files := by
            cases registered <;> obtain ⟨rfl, rfl⟩ := Prod.mk.inj h <;> exact ⟨rfl, rfl⟩
          obtain ⟨rfl, hf⟩ := hw
          rw [hf]
          exact .created (.ok registered) _ _ _ hh hp hc (registers_of_register hr)
  · simp only [hh, if_true, run_andThen, run_fail] at h
    obtain ⟨rfl, rfl⟩ := Prod.mk.inj h
    exact .taken hh

theorem writes_write (root : Path) (artifact : Artifact) (w : Workspace) :
    artifact.Writes root w.files
      ((artifact.write root : Action (StateM Workspace) Written).run w).1
      ((artifact.write root : Action (StateM Workspace) Written).run w).2.files := by
  rcases h : (artifact.write root : Action (StateM Workspace) Written).run w with ⟨r, w'⟩
  exact writes_of_write h

/-! ## Growth by registrations -/

/-- `piece` is `line` on a line of its own, perhaps after the end of the line before. -/
def IsLineOf (line : String) (piece : List UInt8) : Prop :=
  piece = Text.encode line ++ [10] ∨ piece = 10 :: (Text.encode line ++ [10])

theorem isLineOf_addition (bytes : List UInt8) (line : String) :
    IsLineOf line (Aggregator.addition bytes line) := by
  unfold Aggregator.addition
  split
  · exact .inr rfl
  · exact .inl rfl

/-- What registering a line in the aggregator at `p` may append to a file. -/
def Registering (p : Path) (line : String) (t : FileTree) (location : Location)
    (piece : List UInt8) : Prop :=
  t.LeadsTo p location ∧ IsLineOf line piece

namespace Aggregator.Registers

variable {p : Path} {line : String} {t t' : FileTree} {r : Except Failure Bool}

/-- A line that cannot be registered leaves no trace, and the cause is a file. -/
theorem of_error {failure : Failure} (h : Registers p line t (.error failure) t') :
    failure.kind = .file ∧ t' = t := by
  cases h with
  | unread => exact ⟨rfl, rfl⟩
  | unappended => exact ⟨rfl, rfl⟩

theorem grows (h : Registers p line t r t') : t.Grows (Registering p line t') t' := by
  cases h with
  | unread => exact (FileTree.Extends.refl t).grows
  | present => exact (FileTree.Extends.refl t).grows
  | unappended => exact (FileTree.Extends.refl t).grows
  | added bytes _ _ _ ha =>
    obtain ⟨place, hr, ⟨he, rfl⟩ | ⟨old, he, rfl⟩⟩ := FileTree.append_cases ha
    · exact (FileTree.extends_put he _).grows
    · have hl : t.LeadsTo p place.location := by
        refine ⟨.file old, place.slash, ?_⟩
        rw [FileTree.resolve_look_of_append hr, ← he, ← FileTree.entry_of_resolve hr]
      have hg : t.Grows (fun _ _ => True)
          (t.put place.location (.file (old ++ Aggregator.addition bytes line))) :=
        FileTree.grows_put_file he trivial
      exact FileTree.grows_put_file he ⟨hl.of_grows hg, isLineOf_addition bytes line⟩

end Aggregator.Registers

theorem MakesParent.keeps {R : FileTree → FileTree → Prop} [AllowsAdding R] {p : Path}
    {t t' : FileTree} {r : Except Failure Unit} (h : MakesParent p t r t') : R t t' := by
  obtain ⟨w, w', rfl, rfl, h⟩ := h
  have hk := keeps_makeParent (R := R) p w
  rwa [h] at hk

theorem MakesParent.extends {p : Path} {t t' : FileTree} {r : Except Failure Unit}
    (h : MakesParent p t r t') : t.Extends t' :=
  h.keeps

namespace Artifact.Writes

variable {root : Path} {artifact : Artifact} {t t' : FileTree} {r : Except Failure Written}

/-- An artifact that is written has its file created and then its line registered. -/
theorem of_ok {written : Written} (h : artifact.Writes root t (.ok written) t') :
    written.path = root.join artifact.path ∧ ∃ t₁ t₂,
      MakesParent (root.join artifact.path) t (.ok ()) t₁ ∧
      t₁.create (root.join artifact.path) (Text.encode artifact.content) = .ok t₂ ∧
      Aggregator.Registers (root.join artifact.aggregator) artifact.registration t₂
        (.ok written.registered) t' := by
  generalize hres : (.ok written : Except Failure Written) = res at h
  cases h with
  | taken => cases hres
  | homeless => cases hres
  | uncreated => cases hres
  | created r t₁ t₂ _ _ hp hc hr =>
    cases r with
    | error => cases hres
    | ok registered =>
      cases hres
      exact ⟨rfl, t₁, t₂, hp, hc, hr⟩

theorem path_eq {written : Written} (h : artifact.Writes root t (.ok written) t') :
    written.path = root.join artifact.path :=
  h.of_ok.1

/-- Nothing is written if there is something at the path of the artifact. -/
theorem eq_of_has (h : artifact.Writes root t r t') (ht : t.has (root.join artifact.path) = true) :
    r = .error (.alreadyExists (root.join artifact.path)) ∧ t' = t := by
  cases h with
  | taken => exact ⟨rfl, rfl⟩
  | homeless _ _ hno => cases hno.symm.trans ht
  | uncreated _ _ hno => cases hno.symm.trans ht
  | created _ _ _ _ hno => cases hno.symm.trans ht

/-- Writing an artifact takes nothing away and appends its registration only. -/
theorem grows (h : artifact.Writes root t r t') :
    t.Grows (Registering (root.join artifact.aggregator) artifact.registration t') t' := by
  cases h with
  | taken => exact (FileTree.Extends.refl t).grows
  | homeless _ _ _ hp => exact hp.extends.grows
  | uncreated _ _ _ hp => exact hp.extends.grows
  | created _ t₁ t₂ _ _ hp hc hr =>
    obtain ⟨place, -, he, rfl⟩ := FileTree.create_cases hc
    exact (hp.extends.trans (FileTree.extends_put he _)).grows.trans hr.grows

/-- Writing an artifact leaves a rooted tree rooted. -/
theorem rooted (h : artifact.Writes root t r t') (ht : t.Rooted) : t'.Rooted := by
  have made {p r t₁} (hp : MakesParent p t r t₁) : t₁.Rooted :=
    hp.keeps (R := FileTree.StaysRooted) ht
  cases h with
  | taken => exact ht
  | homeless _ _ _ hp => exact made hp
  | uncreated _ _ _ hp => exact made hp
  | created _ _ _ _ _ hp hc hr =>
    have h₂ := (made hp).create hc
    cases hr with
    | unread => exact h₂
    | present => exact h₂
    | unappended => exact h₂
    | added _ _ _ _ ha => exact h₂.append ha

end Artifact.Writes

end Groundwork
