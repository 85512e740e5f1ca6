import Groundwork.Files.Directories
import Groundwork.Proofs.Files.Growth
import Mathlib.Order.Defs.Unbundled

/-!
# What computations do to the files

A computation on a workspace takes a workspace to a result and a workspace. The equations `run_…`
say so for the steps that computations are made of, and `andThen_cases` takes a sequence apart.

`Keeps R x` says that the files before and after the computation `x` are related by `R`, whatever
workspace it begins in and whether it succeeds or fails. For a preorder `R` it suffices to look at
the steps of a computation one by one (`keeps_bind`, `keeps_andThen`). What only reads keeps every
preorder, equality among them; what makes directories and creates files keeps those that
`AllowsAdding` names, such as `FileTree.Extends` (`keeps_makeDirectories`, `keeps_create`).
-/

namespace Groundwork

/-- A preorder that a tree and the tree with one more directory or file are related by. -/
class AllowsAdding (R : FileTree → FileTree → Prop) : Prop extends IsPreorder FileTree R where
  /-- A directory may be made. -/
  of_makeDirectory {t t' : FileTree} {p : Path} : t.makeDirectory p = .ok t' → R t t'
  /-- A file may be created. -/
  of_create {t t' : FileTree} {p : Path} {bytes : List UInt8} :
    t.create p bytes = .ok t' → R t t'

instance : AllowsAdding FileTree.Extends where
  refl := FileTree.Extends.refl
  trans _ _ _ := FileTree.Extends.trans
  of_makeDirectory h := by
    obtain ⟨place, -, he, rfl⟩ := FileTree.makeDirectory_cases h
    exact FileTree.extends_put he _
  of_create h := by
    obtain ⟨place, -, he, rfl⟩ := FileTree.create_cases h
    exact FileTree.extends_put he _

namespace Workspace

variable {α β ε : Type} {R : FileTree → FileTree → Prop} {w w' : Workspace}

/-! ## Runs -/

@[simp] theorem run_has (p : Path) (w : Workspace) :
    (FileStore.has p : StateM Workspace Bool) w = (w.files.has p, w) := rfl

@[simp] theorem run_isFile (p : Path) (w : Workspace) :
    (FileStore.isFile p : StateM Workspace Bool) w = (w.files.isFile p, w) := rfl

@[simp] theorem run_isDirectory (p : Path) (w : Workspace) :
    (FileStore.isDirectory p : StateM Workspace Bool) w = (w.files.isDirectory p, w) := rfl

@[simp] theorem run_read (p : Path) (w : Workspace) :
    (FileStore.read p : StateM Workspace (Except FileError (List UInt8))) w =
      (w.files.read p, w) := rfl

@[simp] theorem run_makeDirectory (p : Path) (w : Workspace) :
    (FileStore.makeDirectory p : StateM Workspace (Except FileError Unit)) w =
      change (·.makeDirectory p) w := rfl

@[simp] theorem run_create (p : Path) (bytes : List UInt8) (w : Workspace) :
    (FileStore.create p bytes : StateM Workspace (Except FileError Unit)) w =
      change (·.create p bytes) w := rfl

@[simp] theorem run_append (p : Path) (bytes : List UInt8) (w : Workspace) :
    (FileStore.append p bytes : StateM Workspace (Except FileError Unit)) w =
      change (·.append p bytes) w := rfl

@[simp] theorem run_pure (a : α) (w : Workspace) : (pure a : StateM Workspace α) w = (a, w) := rfl

@[simp] theorem mapError_ok {ε' : Type} (f : ε → ε') (a : α) :
    (Except.ok a).mapError f = .ok a := rfl

@[simp] theorem mapError_error {ε' : Type} (f : ε → ε') (e : ε) :
    (Except.error e : Except ε α).mapError f = .error (f e) := rfl

@[simp] theorem run_ok (a : α) (w : Workspace) :
    (pure a : ExceptT ε (StateM Workspace) α).run w = (.ok a, w) := rfl

@[simp] theorem run_fail (failure : Failure) (w : Workspace) :
    (Action.fail failure : Action (StateM Workspace) α).run w = (.error failure, w) := rfl

@[simp] theorem run_step (x : StateM Workspace α) (w : Workspace) :
    (Action.step x).run w = (.ok (x w).1, (x w).2) := rfl

@[simp] theorem run_note (level : Log.Level) (message : String) (values : List (String × String))
    (w : Workspace) :
    (Action.note level message values : Action (StateM Workspace) Unit).run w =
      (.ok (), { w with log := w.log ++ [⟨level, message, values⟩] }) := rfl

theorem run_andThen (x : ExceptT ε (StateM Workspace) α)
    (f : α → ExceptT ε (StateM Workspace) β) (w : Workspace) :
    (x >>= f).run w =
      match x.run w with
      | (.ok a, w₁) => (f a).run w₁
      | (.error e, w₁) => (.error e, w₁) := by
  rw [ExceptT.run_bind]
  rcases hx : x.run w with ⟨e | a, w₁⟩
  · simp only [bind, StateT.bind, hx]
    rfl
  · simp only [bind, StateT.bind, hx]

theorem andThen_of_ok {x : ExceptT ε (StateM Workspace) α}
    {f : α → ExceptT ε (StateM Workspace) β} {a : α} (h : x.run w = (.ok a, w')) :
    (x >>= f).run w = (f a).run w' := by
  rw [run_andThen, h]

/-- A sequence of two computations that can fail ends when the first one fails, or with the
second. -/
theorem andThen_cases {x : ExceptT ε (StateM Workspace) α}
    {f : α → ExceptT ε (StateM Workspace) β} {r : Except ε β}
    (h : (x >>= f).run w = (r, w')) :
    (∃ e, x.run w = (.error e, w') ∧ r = .error e) ∨
      ∃ a w₁, x.run w = (.ok a, w₁) ∧ (f a).run w₁ = (r, w') := by
  rw [run_andThen] at h
  rcases hx : x.run w with ⟨e | a, w₁⟩
  · rw [hx] at h
    cases h
    exact .inl ⟨e, rfl, rfl⟩
  · rw [hx] at h
    exact .inr ⟨a, w₁, rfl, h⟩

theorem andThen_of_error {x : ExceptT ε (StateM Workspace) α}
    {f : α → ExceptT ε (StateM Workspace) β} {e : ε} (h : x.run w = (.error e, w')) :
    (x >>= f).run w = (.error e, w') := by
  rw [run_andThen, h]

/-- A sequence succeeds when both of its computations do. -/
theorem andThen_ok {x : ExceptT ε (StateM Workspace) α}
    {f : α → ExceptT ε (StateM Workspace) β} {b : β} (h : (x >>= f).run w = (.ok b, w')) :
    ∃ a w₁, x.run w = (.ok a, w₁) ∧ (f a).run w₁ = (.ok b, w') := by
  obtain ⟨e, -, he⟩ | h := andThen_cases h
  · cases he
  · exact h

@[simp] theorem run_attempt (p : Path) (x : StateM Workspace (Except FileError α))
    (w : Workspace) :
    (Action.attempt p x).run w = ((x w).1.mapError (Failure.file p), (x w).2) := by
  rw [Action.attempt, run_andThen]
  rcases hx : x w with ⟨e | a, w₁⟩ <;> simp [hx]

theorem attempt_ok {p : Path} {x : StateM Workspace (Except FileError α)} {a : α}
    (h : (Action.attempt p x).run w = (.ok a, w')) : x w = (.ok a, w') := by
  rw [run_attempt] at h
  rcases hx : x w with ⟨e | b, w₁⟩
  · rw [hx] at h
    cases h
  · rw [hx] at h
    cases h
    rfl

/-! ## Keeping a relation -/

/-- Whatever workspace `x` begins in, the files before and after it are related by `R`. -/
def Keeps (R : FileTree → FileTree → Prop) (x : StateM Workspace α) : Prop :=
  ∀ w, R w.files (x w).2.files

theorem keeps_change [IsPreorder FileTree R] {f : FileTree → Except FileError FileTree}
    (h : ∀ t t', f t = .ok t' → R t t') : Keeps R (change f) := by
  intro w
  rcases hf : f w.files with e | t
  · simpa [change, hf] using refl_of R w.files
  · simpa [change, hf] using h _ _ hf

theorem keeps_step {x : StateM Workspace α} (hx : Keeps R x) : Keeps R (Action.step x).run :=
  fun w => hx w

section

variable [IsPreorder FileTree R]

theorem keeps_pure (a : α) : Keeps R (pure a) := fun w => refl_of R w.files

theorem keeps_ask (question : FileTree → α) : Keeps R (ask question) := fun w => refl_of R w.files

theorem keeps_note (r : Log.Record) : Keeps R (FileStore.note r : StateM Workspace Unit) :=
  fun w => refl_of R w.files

theorem keeps_bind {x : StateM Workspace α} {f : α → StateM Workspace β} (hx : Keeps R x)
    (hf : ∀ a, Keeps R (f a)) : Keeps R (x >>= f) :=
  fun w => trans_of R (hx w) (hf (x w).1 (x w).2)

theorem keeps_ok (a : α) : Keeps R (pure a : ExceptT ε (StateM Workspace) α).run :=
  fun w => refl_of R w.files

theorem keeps_throw (e : ε) : Keeps R (throw e : ExceptT ε (StateM Workspace) α).run :=
  fun w => refl_of R w.files

/-- What two computations that can fail keep, their sequence keeps. -/
theorem keeps_andThen {x : ExceptT ε (StateM Workspace) α}
    {f : α → ExceptT ε (StateM Workspace) β} (hx : Keeps R x.run) (hf : ∀ a, Keeps R (f a).run) :
    Keeps R (x >>= f).run := by
  rw [ExceptT.run_bind]
  refine keeps_bind hx fun r => ?_
  cases r with
  | ok a => exact hf a
  | error e => exact keeps_pure _

theorem keeps_attempt {x : StateM Workspace (Except FileError α)} (p : Path) (hx : Keeps R x) :
    Keeps R (Action.attempt p x).run := by
  refine keeps_andThen (keeps_step hx) fun r => ?_
  cases r with
  | ok a => exact keeps_ok a
  | error e => exact keeps_throw _

theorem keeps_readText (p : Path) :
    Keeps R (FileStore.readText p : StateM Workspace (Except FileError String)) := by
  refine keeps_bind (keeps_ask _) fun r => ?_
  cases r with
  | error e => exact keeps_pure _
  | ok bytes =>
    dsimp only
    split <;> exact keeps_pure _

end

/-- The trees before and after a computation, where the one after has a property if the one before
has it. -/
def Preserves (P : FileTree → Prop) (t t' : FileTree) : Prop := P t → P t'

instance (P : FileTree → Prop) : IsPreorder FileTree (Preserves P) where
  refl _ := id
  trans _ _ _ h h' := h' ∘ h

/-! ## Making directories and creating files -/

section

variable [IsPreorder FileTree R]

/-- Settling a directory keeps what making it keeps. -/
theorem keeps_settleDirectory {p : Path}
    (h : Keeps R (FileStore.makeDirectory p : StateM Workspace (Except FileError Unit))) :
    Keeps R (FileStore.settleDirectory p : StateM Workspace (Except FileError Unit)) := by
  refine keeps_bind h fun r => ?_
  cases r with
  | ok u => exact keeps_pure _
  | error e =>
    dsimp only
    split
    · refine keeps_bind (keeps_ask _) fun b => ?_
      split <;> exact keeps_pure _
    · exact keeps_pure _

theorem keeps_climb {ps : List Path}
    (h : ∀ p ∈ ps, Keeps R (FileStore.makeDirectory p : StateM Workspace (Except FileError Unit))) :
    Keeps R (FileStore.climb ps : StateM Workspace (Except FileError (List Path))) := by
  induction ps with
  | nil => exact keeps_pure _
  | cons p above ih =>
    rw [List.forall_mem_cons] at h
    unfold FileStore.climb
    split
    · exact keeps_pure _
    · refine keeps_bind (keeps_settleDirectory h.1) fun r => ?_
      split
      · exact keeps_pure _
      · refine keeps_bind (ih h.2) fun r => ?_
        split <;> exact keeps_pure _
      · exact keeps_pure _

theorem keeps_settleAll {ps : List Path}
    (h : ∀ p ∈ ps, Keeps R (FileStore.makeDirectory p : StateM Workspace (Except FileError Unit))) :
    Keeps R (FileStore.settleAll ps : StateM Workspace (Except FileError Unit)) := by
  induction ps with
  | nil => exact keeps_pure _
  | cons p ps ih =>
    rw [List.forall_mem_cons] at h
    refine keeps_bind (keeps_settleDirectory h.1) fun r => ?_
    cases r with
    | ok u => exact ih h.2
    | error e => exact keeps_pure _

/-- Going up from a path that is not empty: the directory is settled, and only if something on the
way to it is missing are those above it settled first. -/
theorem run_climb {p : Path} (hp : p.text ≠ "") (above : List Path) (w : Workspace) :
    (FileStore.climb (p :: above) : StateM Workspace (Except FileError (List Path))) w =
      match (FileStore.settleDirectory p : StateM Workspace (Except FileError Unit)) w with
      | (.ok (), w₁) => (.ok [], w₁)
      | (.error .notFound, w₁) =>
        match (FileStore.climb above : StateM Workspace (Except FileError (List Path))) w₁ with
        | (r, w₂) => (r.map (p :: ·), w₂)
      | (.error e, w₁) => (.error e, w₁) := by
  simp only [FileStore.climb, if_neg hp, bind, StateT.bind]
  rcases (FileStore.settleDirectory p : StateM Workspace (Except FileError Unit)) w with
    ⟨e | u, w₁⟩
  · cases e
    case notFound =>
      rcases hc : (FileStore.climb above : StateM Workspace (Except FileError (List Path))) w₁ with
        ⟨e | passed, w₂⟩ <;> simp only [StateT.bind, bind, hc] <;> rfl
    all_goals rfl
  · rfl

/-- The paths that are passed on the way up are among those that are climbed. -/
theorem subset_of_climb {ps passed : List Path}
    (h : (FileStore.climb ps : StateM Workspace (Except FileError (List Path))) w =
      (.ok passed, w')) : passed ⊆ ps := by
  induction ps generalizing w w' passed with
  | nil =>
    obtain ⟨h, -⟩ := Prod.mk.inj h
    obtain rfl := Except.ok.inj h
    exact List.Subset.refl _
  | cons p above ih =>
    by_cases hp : p.text = ""
    · rw [FileStore.climb, if_pos hp] at h
      obtain ⟨h, -⟩ := Prod.mk.inj h
      obtain rfl := Except.ok.inj h
      exact List.nil_subset _
    · rw [run_climb hp] at h
      split at h
      · obtain ⟨h, -⟩ := Prod.mk.inj h
        obtain rfl := Except.ok.inj h
        exact List.nil_subset _
      · next w₁ _ =>
        rcases hc : (FileStore.climb above : StateM Workspace (Except FileError (List Path))) w₁
          with ⟨e | rest, w₂⟩
        · rw [hc] at h
          cases h
        · rw [hc] at h
          obtain ⟨h, -⟩ := Prod.mk.inj h
          obtain rfl := Except.ok.inj h
          exact List.cons_subset_cons p (ih hc)
      · cases h

/-- Making a directory with those above it keeps what making each of them keeps. -/
theorem keeps_makeDirectories_of {p : Path}
    (h : ∀ q ∈ p.ancestors,
      Keeps R (FileStore.makeDirectory q : StateM Workspace (Except FileError Unit))) :
    Keeps R (FileStore.makeDirectories p : StateM Workspace (Except FileError Unit)) := by
  intro w
  have hclimb := keeps_climb h w
  simp only [FileStore.makeDirectories, bind, StateT.bind]
  rcases hc : (FileStore.climb p.ancestors : StateM Workspace (Except FileError (List Path))) w with
    ⟨e | passed, w₁⟩
  · rw [hc] at hclimb
    exact hclimb
  · rw [hc] at hclimb
    have hpassed : ∀ q ∈ passed.reverse,
        Keeps R (FileStore.makeDirectory q : StateM Workspace (Except FileError Unit)) :=
      fun q hq => h q (subset_of_climb hc (List.mem_reverse.1 hq))
    exact trans_of R hclimb (keeps_settleAll hpassed w₁)

end

section

variable [AllowsAdding R]

theorem keeps_makeDirectory (p : Path) :
    Keeps R (FileStore.makeDirectory p : StateM Workspace (Except FileError Unit)) :=
  keeps_change fun _ _ => AllowsAdding.of_makeDirectory

theorem keeps_create (p : Path) (bytes : List UInt8) :
    Keeps R (FileStore.create p bytes : StateM Workspace (Except FileError Unit)) :=
  keeps_change fun _ _ => AllowsAdding.of_create

theorem keeps_makeDirectories (p : Path) :
    Keeps R (FileStore.makeDirectories p : StateM Workspace (Except FileError Unit)) :=
  keeps_makeDirectories_of fun q _ => keeps_makeDirectory q

end

end Workspace

end Groundwork
