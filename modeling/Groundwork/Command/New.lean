import Groundwork.Artifact.Writing
import Groundwork.Command.Report
import Groundwork.Inflection.Snake
import Groundwork.Project

/-!
# Making projects

The command that makes a new project: a directory that is not there yet, with a marker file and the
files that the library has templates for. The project is called like its directory.
-/

namespace Groundwork

open Text

/-- The command that makes a project. -/
structure New where
  /-- The path of the project. -/
  path : Path
  deriving DecidableEq, Repr

namespace New

/-- Whether a text can name a project: letters, digits, hyphens and underscores, all ASCII, with
neither a digit nor a hyphen in front. -/
def isProjectName (name : String) : Bool :=
  match name.toList with
  | [] => false
  | c :: cs =>
    (isAsciiLetter c || c == '_') && cs.all fun c => isAsciiAlphanumeric c || c == '_' || c == '-'

/-! ## The files of a new project -/

/-- What the names of the templates of a new project begin with. -/
def folder : String := "project/"

/-- What the names of templates end with. -/
def ending : String := ".jinja2"

/-- The path, from the root of a new project, of the file that the template called `template` makes:
the name without its folder and its ending, or all of it if it does not have both. -/
def filePath (template : String) : Path :=
  let inner? := do
    let inner ← folder.toList.isPrefixOf? template.toList
    ending.toList.isSuffixOf? inner
  ⟨(inner?.map String.ofList).getD template⟩

/-- The names of the library's templates of a new project, in order, and the paths of the files that
they make. -/
def skeleton : List (String × Path) :=
  (Template.Library.names.filter fun template => folder.toList.isPrefixOf template.toList).map
    fun template => (template, filePath template)

/-- What the names in the templates of a new project stand for. -/
def scope (name : String) : Template.Scope :=
  [("project_name", .text name), ("project_name_snake", .text (Inflection.snake name))]

variable {m : Type → Type} [Monad m] [FileStore m]

/-- Makes a file of the project called `name` from its template. -/
def makeFile (target : Path) (name : String) (template : String) (path : Path) :
    Action m Unit := do
  let file := target.join path
  Action.makeParent file
  let content ← TemplateSource.library.render template (scope name)
  Action.writeNew file content
  Action.note .debug "generated" [("path", file.text)]

/-- Makes a project at a path, and tells its name. -/
def create (target : Path) : Action m String := do
  match target.fileName?.filter isProjectName with
  | none => Action.fail (.projectName target)
  | some name =>
    if ← Action.step (FileStore.has target) then Action.fail (.alreadyExists target)
    Action.makeDirectories target
    Action.writeNew (target.join Project.marker) (Settings.manifest name)
    skeleton.forM fun (template, path) => makeFile target name template path
    Action.note .info "project created" [("project", name), ("path", target.text)]
    pure name

/-! ## The command -/

/-- What to do after a project has been made at a path. -/
def nextSteps (setting : Setting) (path : Path) : List String :=
  setting.word Catalog.nextSteps ::
    ["cd " ++ path.text, "pip install -r requirements.txt",
      "oryum make-model Produto --fields nome:string,preco:float", "python init_db.py",
      "python app.py"].map ("  " ++ ·)

/-- Runs the command. -/
def run (new : New) (setting : Setting) : m Report := do
  let target := setting.directory.join new.path
  let progress := Event.progress <|
    setting.say Catalog.creatingProject [("name", target.fileName?.getD "")]
  match ← (create target).run with
  | .ok name =>
    let text := setting.say Catalog.createdProject [("name", name), ("path", target.text)]
    pure ⟨.success target, [progress, .success text (nextSteps setting new.path)]⟩
  | .error failure => setting.failed [progress] failure

end New

end Groundwork
