import Groundwork.Artifact.Generation
import Groundwork.Artifact.Writing
import Groundwork.Command.Report
import Groundwork.Project

/-!
# Making artifacts

The command that generates an artifact in the project that one is in. It goes through stages: it
finds the project, reads the specifications, generates the artifact, writes it, and reports. Nothing
is written before everything has been generated.
-/

namespace Groundwork

/-- The command that makes an artifact. -/
structure Make where
  /-- The kind of the artifact. -/
  kind : ArtifactKind
  /-- The name of the entity. -/
  name : String
  /-- The fields, if any are given. -/
  fields : Option String := none
  /-- The relationships, if any are given. -/
  relationships : Option String := none
  /-- Whether there are columns for the times of creation and change; the project decides if this
  is not given. -/
  timestamps : Option Bool := none
  deriving DecidableEq, Repr

namespace Make

/-- A stage of the command. -/
inductive Stage
  | idle
  | validatingContext
  | parsing
  | rendering
  | writing
  | reporting
  deriving DecidableEq, Repr

/-- The name of a stage in the log. -/
def Stage.name : Stage → String
  | idle => "Idle"
  | validatingContext => "ValidatingContext"
  | parsing => "Parsing"
  | rendering => "Rendering"
  | writing => "Writing"
  | reporting => "Reporting"

variable {m : Type → Type} [Monad m] [FileStore m]

/-- Notes that the command goes on to a stage. -/
def advance (stage next : Stage) : m Unit :=
  FileStore.note ⟨.debug, "state transition", [("from", stage.name), ("to", next.name)]⟩

/-- Warns of the names that are repeated in a list. -/
def warn (what : String) (names : List String) : Action m Unit :=
  (Entry.repeated [] names).forM fun name =>
    Action.note .warn s!"duplicate {what} name passed through" [(what, name)]

/-! ## The stages -/

/-- Reads the specifications of the command in a project. -/
def request (make : Make) (project : Project) : Action m Request := do
  let entity ← Action.entry (Entity.parse make.name)
  let fields ← Action.entry (Field.parseList make.fields)
  warn "field" (fields.map (·.name))
  let relationships ← Action.entry (Relationship.parseList make.relationships)
  warn "relationship" (relationships.map (·.name))
  pure ⟨entity, fields, relationships,
    make.timestamps.getD project.settings.generator.timestamps⟩

/-- Goes on to a stage and runs it; if it fails, the stage is told along with the failure. -/
def enter {α : Type} (stage next : Stage) (action : Action m α) :
    ExceptT (Stage × Failure) m α := do
  ExceptT.lift (advance stage next)
  action.adapt (next, ·)

/-- Runs the stages up to the writing of the artifact. -/
def perform (make : Make) (directory : Path) :
    ExceptT (Stage × Failure) m (Artifact × Written) := do
  let project ← enter .idle .validatingContext (Project.discover directory)
  let request ← enter .validatingContext .parsing (make.request project)
  let artifact ← enter .parsing .rendering do
    let source ← project.templates
    request.generate make.kind source
  let written ← enter .rendering .writing (artifact.write project.root)
  pure (artifact, written)

/-! ## The command -/

/-- The name that the artifact is reported under: that of its class. -/
def displayName (make : Make) : String :=
  match Entity.parse make.name with
  | .ok entity => make.kind.className entity
  | .error _ => Text.trim make.name

/-- What is reported of an artifact that has been written. -/
def succeeded (make : Make) (setting : Setting) (artifact : Artifact) (written : Written) : Event :=
  .success
    (setting.say Catalog.created
      [("kind", setting.word make.kind.label), ("name", make.displayName),
        ("path", artifact.path.text)])
    [setting.say (if written.registered then Catalog.registered else Catalog.alreadyRegistered)
      [("aggregator", artifact.aggregator.text)]]

/-- Runs the command. -/
def run (make : Make) (setting : Setting) : m Report := do
  let progress := Event.progress <| setting.say Catalog.generating
    [("kind", setting.word make.kind.label), ("name", Text.trim make.name)]
  match ← (make.perform setting.directory).run with
  | .ok (artifact, written) =>
    advance .writing .reporting
    pure ⟨.success written.path, [progress, make.succeeded setting artifact written]⟩
  | .error (stage, failure) =>
    advance stage .reporting
    FileStore.note ⟨.debug, "aborted", [("state", stage.name)]⟩
    setting.failed [progress] failure

end Make

end Groundwork
