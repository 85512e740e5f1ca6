import Groundwork.Failure
import Groundwork.Files.Tree
import Groundwork.Log

/-!
# Stores of files

Commands are written for any store of files: they look at files and directories, add to them, and
keep a log. The disk is one store; a `Workspace`, which is a file tree with a log, is another one,
and it is the one that statements about commands speak of. `Action` is a computation on a store that
can fail; what it did to the store before it failed is not undone.
-/

namespace Groundwork

/-- Computations that can look at files, add to them, and keep a log. -/
class FileStore (m : Type → Type) where
  /-- Whether a path leads to anything. -/
  has : Path → m Bool
  /-- Whether a path leads to a file. -/
  isFile : Path → m Bool
  /-- Whether a path leads to a directory. -/
  isDirectory : Path → m Bool
  /-- Reads the file that a path leads to. -/
  read : Path → m (Except FileError (List UInt8))
  /-- Makes a directory, where nothing may be yet. -/
  makeDirectory : Path → m (Except FileError Unit)
  /-- Creates a file, where nothing may be yet. -/
  create : Path → List UInt8 → m (Except FileError Unit)
  /-- Appends bytes to the file that a path leads to, which is made if it is missing. -/
  append : Path → List UInt8 → m (Except FileError Unit)
  /-- Adds a record to the log. -/
  note : Log.Record → m Unit

/-- A computation on a store that can fail. -/
abbrev Action (m : Type → Type) := ExceptT Failure m

/-! ## Workspaces -/

/-- A file tree and the records of the log. -/
structure Workspace where
  /-- The files. -/
  files : FileTree
  /-- The records, in order. -/
  log : List Log.Record

namespace Workspace

/-- The answer of a question about the files. -/
def ask {α : Type} (question : FileTree → α) : StateM Workspace α := fun w => (question w.files, w)

/-- A change of the files, which are left as they are if it cannot be made. -/
def change (f : FileTree → Except FileError FileTree) : StateM Workspace (Except FileError Unit) :=
  fun w =>
    match f w.files with
    | .ok files => (.ok (), { w with files })
    | .error e => (.error e, w)

instance : FileStore (StateM Workspace) where
  has p := ask (·.has p)
  isFile p := ask (·.isFile p)
  isDirectory p := ask (·.isDirectory p)
  read p := ask (·.read p)
  makeDirectory p := change (·.makeDirectory p)
  create p bytes := change (·.create p bytes)
  append p bytes := change (·.append p bytes)
  note r := fun w => ((), { w with log := w.log ++ [r] })

end Workspace

namespace Action

variable {m : Type → Type} [Monad m]

/-! ## Steps of actions -/

/-- Fails. -/
def fail {α : Type} (failure : Failure) : Action m α := throw failure

/-- A step on the store that cannot fail. -/
def step {α : Type} (x : m α) : Action m α := ExceptT.lift x

/-- Goes on with the result of a step on the file at a path, or fails. -/
def attempt {α : Type} (p : Path) (x : m (Except FileError α)) : Action m α := do
  match ← step x with
  | .ok a => pure a
  | .error e => fail (.file p e)

/-- Goes on with what an entry spells, or fails. -/
def entry {α : Type} : Except EntryError α → Action m α
  | .ok a => pure a
  | .error e => fail (.entry e)

variable [FileStore m]

/-- Notes a record in the log. -/
def note (level : Log.Level) (message : String) (values : List (String × String)) : Action m Unit :=
  step (FileStore.note ⟨level, message, values⟩)

end Action

end Groundwork
