import Groundwork.Command.New
import Groundwork.Proofs.Command.Stages
import Mathlib.Data.List.Induction

/-!
# Runs of operations

Commands and the writing of artifacts follow one another in any order and with any arguments, each
succeeding or failing. Whatever they do, nothing of the user's is lost (`run_destroys_nothing`):
directories and links stay as they are, a file keeps its bytes as its beginning, and it gains bytes
only as the aggregator of an artifact that is registered, by pieces that consist of a registration
on a line of its own (`Operation.Registered`).

One operation makes the tree grow (`Operation.after_grows`), where `new` only extends it
(`keeps_new`); a run is then an induction on its operations. In the same way a rooted tree stays
rooted (`Operation.rooted_run`).
-/

namespace Groundwork

open Workspace

/-! ## Making a project -/

section

variable {R : FileTree → FileTree → Prop} [AllowsAdding R]

theorem keeps_unless {α : Type} (c : Prop) [Decidable c] (failure : Failure)
    {x : Action (StateM Workspace) α} (hx : Keeps R x.run) :
    Keeps R
      (do if c then Action.fail failure
          x : Action (StateM Workspace) α).run := by
  split
  · exact keeps_andThen (keeps_throw _) fun _ => hx
  · exact hx

theorem keeps_makeFile (target : Path) (name : String) (template : String) (path : Path) :
    Keeps R
      (New.makeFile target name template path : Action (StateM Workspace) Unit).run :=
  keeps_andThen (keeps_makeParent _) fun _ => keeps_andThen (keeps_render _ _ _) fun _ =>
    keeps_andThen (keeps_writeNew _ _) fun _ => keeps_step (keeps_note _)

theorem keeps_makeFiles (target : Path) (name : String) (files : List (String × Path)) :
    Keeps R
      (files.forM fun (template, path) =>
        (New.makeFile target name template path : Action (StateM Workspace) Unit)).run := by
  induction files with
  | nil => exact keeps_ok _
  | cons file files ih => exact keeps_andThen (keeps_makeFile _ _ _ _) fun _ => ih

theorem keeps_createProject (target : Path) :
    Keeps R (New.create target : Action (StateM Workspace) String).run := by
  unfold New.create
  split
  · exact keeps_throw _
  · refine keeps_andThen (keeps_step (keeps_ask _)) fun b => keeps_unless _ _ ?_
    exact keeps_andThen (keeps_attempt _ (keeps_makeDirectories _)) fun _ =>
      keeps_andThen (keeps_writeNew _ _) fun _ => keeps_andThen (keeps_makeFiles _ _ _) fun _ =>
        keeps_andThen (keeps_step (keeps_note _)) fun _ => keeps_ok _

/-- Making a project only makes directories and creates files. -/
theorem keeps_new (new : New) (setting : Setting) :
    Keeps R (new.run setting : StateM Workspace Report) := by
  refine keeps_bind (keeps_createProject _) fun r => ?_
  split
  · exact keeps_pure _
  · exact keeps_bind (keeps_note _) fun _ => keeps_pure _

end

/-! ## Operations -/

/-- Something that is done to a workspace. -/
inductive Operation
  /-- Making a project. -/
  | new (new : New) (setting : Setting)
  /-- Making an artifact. -/
  | make (make : Make) (setting : Setting)
  /-- Writing an artifact below a root. -/
  | write (root : Path) (artifact : Artifact)

namespace Operation

/-- The workspace after an operation, whether it succeeds or fails. -/
def after (w : Workspace) : Operation → Workspace
  | new command setting => ((command.run setting : StateM Workspace Report) w).2
  | make command setting => ((command.run setting : StateM Workspace Report) w).2
  | write root artifact => ((artifact.write root : Action (StateM Workspace) Written).run w).2

/-- The workspace after some operations, one after the other. -/
def run (w : Workspace) (operations : List Operation) : Workspace := operations.foldl after w

/-- The artifact that an operation writes, with the root that it writes it below, if it gets so
far. -/
def artifact? (w : Workspace) : Operation → Option (Path × Artifact)
  | new _ _ => none
  | make command setting =>
    (command.prepared setting.directory w).toOption.map fun (project, artifact) =>
      (project.root, artifact)
  | write root artifact => some (root, artifact)

/-- One of the operations writes an artifact whose aggregator leads to `location` then, and `piece`
is the registration of that artifact on a line of its own. -/
def Registered (w : Workspace) (operations : List Operation) (location : Location)
    (piece : List UInt8) : Prop :=
  ∃ earlier operation later root artifact, operations = earlier ++ operation :: later ∧
    operation.artifact? (run w earlier) = some (root, artifact) ∧
    (run w (earlier ++ [operation])).files.LeadsTo (root.join artifact.aggregator) location ∧
    IsLineOf artifact.registration piece

theorem Registered.append {w : Workspace} {operations : List Operation} {location : Location}
    {piece : List UInt8} (h : Registered w operations location piece) (more : List Operation) :
    Registered w (operations ++ more) location piece := by
  obtain ⟨earlier, operation, later, root, artifact, rfl, h⟩ := h
  exact ⟨earlier, operation, later ++ more, root, artifact, by simp, h⟩

/-- What an operation may append: the registration of its artifact, to the aggregator. -/
def Appends (w : Workspace) (operation : Operation) (location : Location) (piece : List UInt8) :
    Prop :=
  ∃ root artifact, operation.artifact? w = some (root, artifact) ∧
    Registering (root.join artifact.aggregator) artifact.registration (after w operation).files
      location piece

theorem after_grows (w : Workspace) (operation : Operation) :
    w.files.Grows (operation.Appends w) (operation.after w).files := by
  cases operation with
  | new command setting =>
    have he : w.files.Extends (after w (new command setting)).files := by
      rw [after]
      exact keeps_new (R := FileTree.Extends) command setting w
    exact he.grows
  | make command setting =>
    have hr := (Make.runs_of_run command setting w).files_eq_or_writes
    rw [← after] at hr
    obtain hf | ⟨project, artifact, r, h, hw⟩ := hr
    · rw [hf]
      exact (FileTree.Extends.refl w.files).grows
    · have ha : (make command setting).artifact? w = some (project.root, artifact) := by
        rw [artifact?, h]
        rfl
      exact hw.grows.mono fun _ _ hr => ⟨project.root, artifact, ha, hr⟩
  | write root artifact =>
    have hw := writes_write root artifact w
    rw [← after] at hw
    exact hw.grows.mono fun _ _ hr => ⟨root, artifact, rfl, hr⟩

theorem rooted_after {w : Workspace} (h : w.files.Rooted) (operation : Operation) :
    (operation.after w).files.Rooted := by
  cases operation with
  | new command setting =>
    rw [after]
    exact keeps_new (R := FileTree.StaysRooted) command setting w h
  | make command setting =>
    have hr := (Make.runs_of_run command setting w).files_eq_or_writes
    rw [← after] at hr
    obtain hf | ⟨project, artifact, r, -, hw⟩ := hr
    · rwa [hf]
    · exact hw.rooted h
  | write root artifact =>
    have hw := writes_write root artifact w
    rw [← after] at hw
    exact hw.rooted h

theorem run_grows (w : Workspace) (operations : List Operation) :
    w.files.Grows (Registered w operations) (run w operations).files := by
  induction operations using List.reverseRecOn with
  | nil => exact (FileTree.Extends.refl _).grows
  | append_singleton operations operation ih =>
    have hrun : run w (operations ++ [operation]) = operation.after (run w operations) := by
      simp [run]
    rw [hrun]
    refine (ih.mono fun _ _ h => h.append _).trans
      ((after_grows _ operation).mono fun location piece h => ?_)
    obtain ⟨root, artifact, ha, hl, hp⟩ := h
    exact ⟨operations, operation, [], root, artifact, rfl, ha, by rwa [hrun], hp⟩

/-- A rooted tree stays rooted, whatever is done to it. -/
theorem rooted_run {w : Workspace} (h : w.files.Rooted) (operations : List Operation) :
    (run w operations).files.Rooted := by
  induction operations generalizing w with
  | nil => exact h
  | cons operation operations ih => exact ih (rooted_after h operation)

/-- **Nothing of the user's is lost.** After any operations, every directory and every link is as
it was, and every file begins with the bytes that it had; what it has more is registrations of
artifacts that the operations wrote, each on a line of its own, in the aggregators of those. -/
theorem run_destroys_nothing (w : Workspace) (operations : List Operation) (location : Location) :
    (w.files.entry? location = some .directory →
      (run w operations).files.entry? location = some .directory) ∧
    (∀ target, w.files.entry? location = some (.link target) →
      (run w operations).files.entry? location = some (.link target)) ∧
    (∀ bytes, w.files.entry? location = some (.file bytes) →
      ∃ pieces : List (List UInt8),
        (run w operations).files.entry? location = some (.file (bytes ++ pieces.flatten)) ∧
        ∀ piece ∈ pieces, Registered w operations location piece) := by
  have hg := run_grows w operations
  refine ⟨hg.entry?_directory, fun target => hg.entry?_link, fun bytes h => ?_⟩
  obtain ⟨entry, he, hb⟩ := hg location _ h
  cases hb with
  | file _ pieces hp => exact ⟨pieces, he, hp⟩

end Operation

end Groundwork
