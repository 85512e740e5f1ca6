import Groundwork.Artifact
import Groundwork.Artifact.Aggregator
import Groundwork.Files.Directories

/-!
# Writing artifacts

Writing an artifact creates its file, which must not be there, and registers it in its aggregator,
which is only ever appended to and left alone if it has the line already.
-/

namespace Groundwork

namespace Action

variable {m : Type → Type} [Monad m] [FileStore m]

/-- Creates a file with a text, where nothing may be yet. -/
def writeNew (p : Path) (content : String) : Action m Unit := do
  match ← step (FileStore.create p (Text.encode content)) with
  | .ok () => pure ()
  | .error .alreadyThere => fail (.alreadyExists p)
  | .error e => fail (.file p e)

/-- Makes a directory and those above it that are missing. -/
def makeDirectories (p : Path) : Action m Unit := attempt p (FileStore.makeDirectories p)

/-- Makes the directory above a path, if there is a path above. -/
def makeParent (p : Path) : Action m Unit :=
  match p.parent? with
  | some parent => makeDirectories parent
  | none => pure ()

/-- Registers a line in the aggregator at a path, and tells whether it was not there before. -/
def register (p : Path) (line : String) : Action m Bool := do
  let bytes ←
    match ← step (FileStore.read p) with
    | .ok bytes => pure bytes
    | .error .notFound => pure []
    | .error e => fail (.file p e)
  if Aggregator.registers bytes line then pure false
  else
    attempt p (FileStore.append p (Aggregator.addition bytes line))
    pure true

end Action

/-- What writing an artifact has done. -/
structure Written where
  /-- The path of the file. -/
  path : Path
  /-- The path of the aggregator. -/
  aggregator : Path
  /-- Whether the aggregator has gained the line of the artifact. -/
  registered : Bool
  deriving DecidableEq, Repr

namespace Artifact

variable {m : Type → Type} [Monad m] [FileStore m]

/-- Writes an artifact below the root of a project. -/
def write (root : Path) (artifact : Artifact) : Action m Written := do
  let path := root.join artifact.path
  let aggregator := root.join artifact.aggregator
  if ← Action.step (FileStore.has path) then Action.fail (.alreadyExists path)
  Action.makeParent path
  Action.writeNew path artifact.content
  Action.note .debug "wrote file"
    [("path", path.text), ("bytes", toString (Text.byteLength artifact.content))]
  let registered ← Action.register aggregator artifact.registration
  let values := [("aggregator", aggregator.text), ("line", artifact.registration)]
  if registered then Action.note .debug "registered" values
  else Action.note .info "registration already present, skipping" values
  pure ⟨path, aggregator, registered⟩

end Artifact

end Groundwork
