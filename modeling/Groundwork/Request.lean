import Groundwork.Artifact
import Groundwork.Field.Basic
import Groundwork.Relationship
import Groundwork.Template.Evaluation

/-!
# Requests

What an artifact is generated from: an entity, its fields and relationships, and whether it keeps
the times at which it is created and changed. `Request.scope` is how a template sees it, with what
the generated code has to import worked out.
-/

namespace Groundwork

/-- What an artifact is generated from. -/
structure Request where
  /-- The entity. -/
  entity : Entity
  /-- The fields, in order. -/
  fields : List Field
  /-- The relationships, in order. -/
  relationships : List Relationship
  /-- Whether the entity has columns for the times of creation and change. -/
  timestamps : Bool
  deriving DecidableEq, Repr

namespace Request

/-! ## Imports -/

/-- The names that generated code can import for its columns, in the order in which it does. -/
def importable : List String :=
  ["Column", "Integer", "String", "Text", "Float", "Numeric", "Boolean", "DateTime", "Date", "JSON",
    "ForeignKey"]

/-- The names that the columns of a request need, in no order and with repetitions. -/
def needed (request : Request) : List String :=
  ["Column", "Integer"] ++ request.fields.map (·.type.importName)
    ++ (if request.timestamps then ["DateTime"] else [])
    ++ (if request.relationships.any (·.cardinality == .one) then ["ForeignKey"] else [])

/-- The names that the generated code imports for its columns. -/
def imports (request : Request) : List String := importable.filter request.needed.contains

/-- Whether a field of a type takes the present moment as its default. -/
def defaultsToNow (request : Request) (type : FieldType) : Bool :=
  request.fields.any fun f =>
    f.type == type && (f.modifiers.default == some .implicit || f.modifiers.default == some .now)

/-- Whether the generated code uses dates with times. -/
def needsDateTime (request : Request) : Bool :=
  request.timestamps || request.defaultsToNow .dateTime

/-- Whether the generated code uses dates. -/
def needsDate (request : Request) : Bool := request.defaultsToNow .date

/-! ## What templates see -/

open Template (Value Scope)

/-- A field as a template sees it. -/
def fieldValue (field : Field) : Value :=
  .record [("name", .text field.name), ("type", .text field.type.name),
    ("column_type", .text field.type.columnType), ("nullable", .boolean field.modifiers.nullable),
    ("unique", .boolean field.modifiers.unique), ("index", .boolean field.modifiers.index),
    ("default", (field.defaultExpression.map Value.text).getD .nothing)]

/-- A relationship as a template sees it. -/
def relationshipValue (r : Relationship) : Value :=
  .record [("name", .text r.name), ("target", .text r.target),
    ("cardinality", .text r.cardinality.name), ("target_table", .text r.targetTable),
    ("foreign_key", .text r.foreignKey)]

/-- What the names in a template stand for. -/
def scope (request : Request) : Scope :=
  [("model_name", .text request.entity.typeName), ("file_stem", .text request.entity.fileStem),
    ("table_name", .text request.entity.tableName),
    ("fields", .list (request.fields.map fieldValue)),
    ("relationships", .list (request.relationships.map relationshipValue)),
    ("timestamps", .boolean request.timestamps),
    ("imports", .list (request.imports.map Value.text)),
    ("needs_datetime", .boolean request.needsDateTime), ("needs_date", .boolean request.needsDate)]

end Request

end Groundwork
