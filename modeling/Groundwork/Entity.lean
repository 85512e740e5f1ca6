import Groundwork.Entry.Error
import Groundwork.Identifier
import Groundwork.Inflection.Plural
import Groundwork.Text.Trim

/-!
# Entities

An entity is what a model and a controller are generated for. Its name is turned into the name of a
class by the upper-case form of its first character, and into the stem of a file name by the
lower-case form of all; nothing else is changed, so that what is generated can be foreseen from what
was typed.
-/

namespace Groundwork

open Text

/-- The names of an entity. -/
structure Entity where
  /-- The name of its class. -/
  typeName : String
  /-- The stem of the name of its file. -/
  fileStem : String
  deriving DecidableEq, Repr

namespace Entity

/-- The class name for a name without blank ends, if there is one: the name must begin with a letter
that has an upper-case form and go on as an identifier. -/
def typeName? : List Char → Option (List Char)
  | [] => none
  | c :: cs =>
    if isAlphabetic c && isIdentifierTail cs then
      match upperForm c with
      | u :: us => if isUppercase u then some (u :: us ++ cs) else none
      | [] => none
    else none

/-- The entity that a name denotes. -/
def parse (raw : String) : Except EntryError Entity :=
  match typeName? (trimChars raw.toList) with
  | some name => .ok ⟨String.ofList name, String.ofList (lowerChars name)⟩
  | none => .error (.invalidEntityName raw)

/-- The name of the table that holds the entity. -/
def tableName (entity : Entity) : String := Inflection.tableName entity.typeName

end Entity

end Groundwork
