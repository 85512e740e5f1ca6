import Groundwork.Catalog
import Groundwork.Files.Store

/-!
# Reports of commands

What a command tells the user: that it is under way, and then its result, once, in the language of
the interface. The outcome says the same to the program that runs the command.
-/

namespace Groundwork

/-- Something that the user is told. -/
inductive Event
  /-- What is under way. -/
  | progress (text : String)
  /-- That the command has succeeded, with details. -/
  | success (text : String) (details : List String)
  /-- That the command has failed: the label of the kind, and the cause. -/
  | failure (label cause : String)
  deriving DecidableEq, Repr

namespace Event

/-- Whether an event is the result of a command. -/
def isResult : Event → Bool
  | progress _ => false
  | _ => true

end Event

/-- The outcome of a command. -/
inductive Outcome
  /-- The command has made what is at the path. -/
  | success (path : Path)
  /-- The command has failed. -/
  | failure (kind : FailureKind) (message : String)
  deriving DecidableEq, Repr

namespace Outcome

/-- The exit status of a command. -/
def status : Outcome → Nat
  | success _ => 0
  | failure _ _ => 1

end Outcome

/-- What a command has told the user, and its outcome. -/
structure Report where
  /-- The outcome. -/
  outcome : Outcome
  /-- What the user has been told, in order. -/
  events : List Event
  deriving DecidableEq, Repr

/-- Where and in which language a command runs, and what it hears from readers from outside. -/
structure Setting where
  /-- The directory that the command runs in. -/
  directory : Path
  /-- The language of the interface. -/
  language : Language
  /-- What readers from outside say of what they refuse. -/
  [explanations : Explanations]

namespace Setting

/-- The text for a key in the language of the interface. -/
def word (setting : Setting) (key : String) : String := Catalog.lookup setting.language key

/-- The text for a key in the language of the interface, filled in. -/
def say (setting : Setting) (key : String) (arguments : List (String × String)) : String :=
  Catalog.text setting.language key arguments

/-- What a reader from outside says of a failure. -/
def explanation (setting : Setting) : Failure → Option String
  | .template name problem => setting.explanations.template name problem
  | .settings => setting.explanations.settings setting.directory
  | _ => none

/-- The text that reports a failure, with what a reader from outside says of it. -/
def message (setting : Setting) (failure : Failure) : String :=
  failure.explained (setting.explanation failure)

variable {m : Type → Type} [Monad m] [FileStore m]

/-- Reports a failure after the events so far. -/
def failed (setting : Setting) (events : List Event) (failure : Failure) : m Report := do
  let message := setting.message failure
  FileStore.note ⟨.debug, "command failed", [("kind", failure.kind.name), ("error", message)]⟩
  pure
    { outcome := .failure failure.kind message
      events := events ++ [.failure (setting.word failure.kind.label) (setting.word message)] }

end Setting

end Groundwork
