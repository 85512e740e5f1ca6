import Groundwork.Entity
import Groundwork.Path
import Groundwork.Template.Library

/-!
# Artifacts

An artifact is a file generated for an entity: its model or its controller. It lies in the directory
of its kind, and it is registered there in the aggregator, the file that makes the directory a
package, by the line that imports its class.
-/

namespace Groundwork

/-- A kind of artifact. -/
inductive ArtifactKind
  /-- A model. -/
  | model
  /-- A controller. -/
  | controller
  deriving DecidableEq, Repr

namespace ArtifactKind

/-- The word for the kind in messages. -/
def label : ArtifactKind → String
  | model => "model"
  | controller => "controller"

/-- The name of the template that makes artifacts of the kind. -/
def templateName : ArtifactKind → String
  | model => Template.Library.modelName
  | controller => Template.Library.controllerName

/-- The directory of the kind, in the root of a project. -/
def directory : ArtifactKind → String
  | model => "models"
  | controller => "controllers"

/-- The name of the module that holds the artifact of an entity. -/
def moduleName (kind : ArtifactKind) (entity : Entity) : String :=
  match kind with
  | model => entity.fileStem
  | controller => entity.fileStem ++ "_controller"

/-- The name of the class that the module defines. -/
def className (kind : ArtifactKind) (entity : Entity) : String :=
  match kind with
  | model => entity.typeName
  | controller => entity.typeName ++ "Controller"

/-- The path of the artifact of an entity, from the root of the project. -/
def path (kind : ArtifactKind) (entity : Entity) : Path :=
  ⟨kind.directory ++ "/" ++ kind.moduleName entity ++ ".py"⟩

/-- The path of the aggregator of the kind, from the root of the project. -/
def aggregator (kind : ArtifactKind) : Path := ⟨kind.directory ++ "/__init__.py"⟩

/-- The line that registers the artifact of an entity in the aggregator. -/
def registration (kind : ArtifactKind) (entity : Entity) : String :=
  "from ." ++ kind.moduleName entity ++ " import " ++ kind.className entity

end ArtifactKind

/-- A generated file, not written yet. -/
structure Artifact where
  /-- The path of the file, from the root of the project. -/
  path : Path
  /-- The text of the file. -/
  content : String
  /-- The path of the aggregator, from the root of the project. -/
  aggregator : Path
  /-- The line that registers the file in the aggregator. -/
  registration : String
  deriving DecidableEq, Repr

end Groundwork
