import Groundwork.Entry.Error
import Groundwork.Files.Error
import Groundwork.Path
import Groundwork.Template.Evaluation

/-!
# Failures of commands

The causes for which a command fails, each with the text that tells the user about it, and the kinds
that they are told apart by. Settings and templates are refused by readers that are not part of the
program; what these say of it is a parameter (`Explanations`).
-/

namespace Groundwork

/-- A kind of failure. -/
inductive FailureKind
  /-- There is no project. -/
  | noProject
  /-- What was typed cannot be understood. -/
  | input
  /-- Something would have to be overwritten. -/
  | alreadyExists
  /-- There is no such template. -/
  | templateNotFound
  /-- A template cannot be rendered. -/
  | template
  /-- A file or directory cannot be read or written. -/
  | file
  /-- The settings of a project cannot be understood. -/
  | settings
  deriving DecidableEq, Repr

namespace FailureKind

/-- The label that a kind is reported under. -/
def label : FailureKind → String
  | noProject => "Not a project"
  | input => "Invalid input"
  | alreadyExists => "Already exists"
  | templateNotFound => "Template not found"
  | template => "Template error"
  | file => "I/O error"
  | settings => "Configuration error"

/-- The name of a kind in the log. -/
def name : FailureKind → String
  | noProject => "NotAProject"
  | input => "Parse"
  | alreadyExists => "AlreadyExists"
  | templateNotFound => "TemplateNotFound"
  | template => "TemplateRender"
  | file => "Io"
  | settings => "Config"

end FailureKind

/-- The cause for which a command fails. -/
inductive Failure
  /-- Neither `start` nor any directory above it is the root of a project. -/
  | noProject (start : Path)
  /-- A specification is refused. -/
  | entry (cause : EntryError)
  /-- There is something at the path already. -/
  | alreadyExists (path : Path)
  /-- There is no template called `name`. -/
  | templateNotFound (name : String)
  /-- The template called `name` cannot be rendered. -/
  | template (name : String) (problem : Template.Problem)
  /-- The file or directory at a path cannot be read or written. -/
  | file (path : Path) (cause : FileError)
  /-- The settings of a project cannot be understood. -/
  | settings
  /-- The last name of a path cannot be the name of a project. -/
  | projectName (path : Path)
  deriving DecidableEq, Repr

namespace Failure

/-- The kind of a failure. -/
def kind : Failure → FailureKind
  | noProject _ => .noProject
  | entry _ | projectName _ => .input
  | alreadyExists _ => .alreadyExists
  | templateNotFound _ => .templateNotFound
  | template _ _ => .template
  | file _ _ => .file
  | settings => .settings

/-- The text that reports the cause, up to where a reader from outside explains it. -/
def message : Failure → String
  | noProject start => s!"no oryum.json found in {start.text} or any parent directory"
  | entry cause => cause.message
  | alreadyExists path => s!"{path.text} already exists"
  | templateNotFound name => s!"template not found: {name}"
  | template name _ => s!"failed to render template {name}"
  | file path cause => s!"I/O error at {path.text}: {cause.message}"
  | settings => "invalid project configuration"
  | projectName path =>
    s!"invalid project name '{path.text}': use letters, digits, hyphens and underscores, "
      ++ "starting with a letter or underscore"

/-- The text that reports the cause, and what a reader from outside says of it, if it is heard. -/
def explained (failure : Failure) : Option String → String
  | some explanation => failure.message ++ ": " ++ explanation
  | none => failure.message

end Failure

/-- What readers from outside say of what they refuse in the run of a command, which ends with the
first refusal; `none` where a reader is not heard. -/
class Explanations where
  /-- What the reader of settings says of a marker file, which it can call by its path from the
  directory that the program runs in. -/
  settings (directory : Path) : Option String
  /-- What the template engine says of the template called `name`. -/
  template (name : String) (problem : Template.Problem) : Option String

/-- No reader is heard. -/
instance unheard : Explanations := ⟨fun _ => none, fun _ _ => none⟩

end Groundwork
