import Groundwork.Field.Kind

/-!
# What can be wrong with a specification

The causes for which a name, a field entry or a relationship entry is refused, each with the text
that tells the user about it.
-/

namespace Groundwork

/-- The cause for which a specification is refused. -/
inductive EntryError
  /-- The entry at `position`, counted from one, is blank. -/
  | emptyEntry (position : Nat)
  /-- A field entry has no type. -/
  | missingType (entry : String)
  /-- The name of an entry is blank. -/
  | emptyName (entry : String)
  /-- The name of an entry is not an identifier. -/
  | invalidName (entry name : String)
  /-- The type of a field is none of the known ones. -/
  | unknownType (field token : String)
  /-- A modifier of a field is none of the known ones. -/
  | unknownModifier (field token : String)
  /-- A default does not fit the type of its field. -/
  | invalidDefault (field : String) (type : FieldType) (value : String)
  /-- A relationship entry does not consist of a name, a target and a cardinality. -/
  | malformedRelationship (entry : String)
  /-- The cardinality of a relationship is neither `one` nor `many`. -/
  | unknownCardinality (relationship token : String)
  /-- A name cannot be made the name of a class. -/
  | invalidEntityName (name : String)
  deriving DecidableEq, Repr

namespace EntryError

/-- The types that a message lists as known. -/
def supportedTypes : String := "string, text, int, float, decimal, bool, datetime, date, json"

/-- The text that reports the cause. -/
def message : EntryError → String
  | emptyEntry position => s!"entry #{position} is empty"
  | missingType entry =>
    s!"invalid field definition '{entry}': missing type (expected name:type[:modifier...])"
  | emptyName entry => s!"invalid definition '{entry}': name cannot be empty"
  | invalidName entry name =>
    s!"invalid name '{name}' in '{entry}': use letters, digits and underscores, "
      ++ "starting with a letter"
  | unknownType field token =>
    s!"unknown type '{token}' for field '{field}'. Supported types: {supportedTypes}"
  | unknownModifier field token =>
    s!"unknown modifier '{token}' for field '{field}'. "
      ++ "Valid modifiers: nullable, unique, index, default[=value]"
  | invalidDefault field type value =>
    s!"invalid default '{value}' for {type.name} field '{field}'"
  | malformedRelationship entry =>
    s!"invalid relationship definition '{entry}': expected name:Target:cardinality"
  | unknownCardinality relationship token =>
    s!"unknown cardinality '{token}' for relationship '{relationship}'. Expected 'one' or 'many'"
  | invalidEntityName name =>
    s!"invalid entity name '{name}': must start with a letter and contain only letters, "
      ++ "digits and underscores"

end EntryError

end Groundwork
