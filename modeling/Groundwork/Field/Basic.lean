import Groundwork.Entry.List
import Groundwork.Field.Modifiers
import Groundwork.Identifier

/-!
# Fields

A field of an entity: a name, a type and modifiers. Its entry in a specification is
`name:type[:modifier]*`; the parts are separated by colons, and blanks around them do not count.
`Field.parse` reports the first thing that is wrong, from left to right. `Field.text` is the
canonical entry of a field, with the default named but not spelled out.
-/

namespace Groundwork

open Text

/-- A field of an entity. -/
structure Field where
  /-- The name of the column. -/
  name : String
  /-- The type of the column. -/
  type : FieldType
  /-- The modifiers of the column. -/
  modifiers : Modifiers
  deriving DecidableEq, Repr

namespace Field

/-- The field that the parts of `entry` spell. -/
def ofParts (entry : String) : List String → Except EntryError Field
  | [] => .error (.emptyName entry)
  | name :: parts =>
    if name = "" then .error (.emptyName entry)
    else if !isMemberName name then .error (.invalidName entry name)
    else
      match parts with
      | [] => .error (.missingType entry)
      | token :: tokens =>
        if token = "" then .error (.missingType entry)
        else
          match FieldType.ofWord? token with
          | none => .error (.unknownType name token)
          | some type => do
            let modifiers ← tokens.foldlM (Modifiers.add name type) {}
            pure ⟨name, type, modifiers⟩

/-- The field that an entry spells. -/
def parse (entry : String) : Except EntryError Field :=
  ofParts entry ((split ':' entry).map trim)

/-- The fields that a list of entries spells. -/
def parseList (spec : Option String) : Except EntryError (List Field) :=
  Entry.parseList parse spec

/-- The expression of the default in the generated code, if there is a default. -/
def defaultExpression (field : Field) : Option String :=
  field.modifiers.default.map (·.expression field.type)

/-- The canonical entry of a field. -/
def text (field : Field) : String :=
  field.name ++ ":" ++ field.type.name
    ++ (if field.modifiers.nullable then ":nullable" else "")
    ++ (if field.modifiers.unique then ":unique" else "")
    ++ (if field.modifiers.index then ":index" else "")
    ++ (if field.modifiers.default.isSome then ":default" else "")

end Field

end Groundwork
