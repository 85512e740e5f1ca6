import Groundwork.Files.Directories
import Groundwork.Template.Library
import Groundwork.Template.Rendering

/-!
# Sources of templates

Templates come from the library, from a list, or from a directory over the library: a file of the
directory takes the place of the library's template of that name, and the library stands in for what
the directory does not have. Only names that lead down from the directory are looked for.
-/

namespace Groundwork

/-- Where templates come from. -/
inductive TemplateSource
  /-- The library. -/
  | library
  /-- A list of templates by name. -/
  | listed (templates : List (String × String))
  /-- A directory over the library. -/
  | directory (path : Path)
  deriving DecidableEq, Repr

namespace TemplateSource

variable {m : Type → Type} [Monad m] [FileStore m]

/-- Loads the template called `name`, if there is one. -/
def load (name : String) : TemplateSource → m (Except FileError (Option String))
  | library => pure (.ok (Template.Library.source? name))
  | listed templates => pure (.ok (templates.lookup name))
  | directory path => do
    if (Path.mk name).goesDown then
      let file := path.join ⟨name⟩
      match ← FileStore.readText file with
      | .ok source =>
        FileStore.note ⟨.debug, "using template override",
          [("template", Log.quoted name), ("path", file.text)]⟩
        pure (.ok (some source))
      | .error .notFound => pure (.ok (Template.Library.source? name))
      | .error e => pure (.error e)
    else pure (.ok none)

/-- Renders the template called `name` in a scope. -/
def render (source : TemplateSource) (name : String) (scope : Template.Scope) :
    Action m String := do
  match ← Action.step (source.load name) with
  | .error _ => Action.fail (.template name .invalid)
  | .ok none => Action.fail (.templateNotFound name)
  | .ok (some text) =>
    match Template.render text scope with
    | .ok s => pure s
    | .error problem => Action.fail (.template name problem)

end TemplateSource

end Groundwork
