import Groundwork.Request
import Groundwork.Template.Source

/-!
# Generating artifacts

An artifact is the rendering of the template of its kind in the scope of a request, with the paths
and the registration that its kind and entity determine.
-/

namespace Groundwork.Request

variable {m : Type → Type} [Monad m] [FileStore m]

/-- Generates the artifact of a kind for a request. -/
def generate (kind : ArtifactKind) (source : TemplateSource) (request : Request) :
    Action m Artifact := do
  let entity := request.entity
  Action.note .debug "rendering template"
    [("template", Log.quoted kind.templateName), ("entity", entity.typeName),
      ("fields", toString request.fields.length),
      ("relationships", toString request.relationships.length)]
  let content ← source.render kind.templateName request.scope
  pure
    { path := kind.path entity
      content := content
      aggregator := kind.aggregator
      registration := kind.registration entity }

end Groundwork.Request
