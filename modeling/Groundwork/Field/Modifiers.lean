import Groundwork.Field.Default
import Groundwork.Text.Split
import Groundwork.Text.Trim

/-!
# Modifiers of fields

What is said of a column beyond its name and type. A modifier is one of a few words, in any letter
case; only the word for the default may be followed by an equals sign and a literal. Modifiers form
a set: their order does not matter and repeating one changes nothing, except that a later default
replaces an earlier one.
-/

namespace Groundwork

open Text

/-- The modifiers of a column. -/
structure Modifiers where
  /-- The column accepts a missing value. -/
  nullable : Bool := false
  /-- No two rows may have the same value. -/
  unique : Bool := false
  /-- The column has an index. -/
  index : Bool := false
  /-- The default of the column, if it has one. -/
  default : Option Default := none
  deriving DecidableEq, Repr

namespace Modifiers

/-- What a modifier word is about. -/
inductive Keyword
  | nullable
  | unique
  | index
  | default
  deriving DecidableEq, Repr

/-- The modifier words, in lower case. -/
def words : List (String × Keyword) :=
  [("nullable", .nullable), ("optional", .nullable), ("unique", .unique), ("index", .index),
    ("indexed", .index), ("default", .default)]

/-- What a word is about, in any letter case. -/
def Keyword.ofWord? (word : String) : Option Keyword := words.lookup (lower word)

/-- A modifier cut at its first equals sign: the word, and the literal if there is one. -/
def cutValue (token : String) : String × Option String :=
  match cutFirst '=' token.toList with
  | (_, none) => (token, none)
  | (word, some value) =>
    (String.ofList (trimChars word), some (String.ofList (trimChars value)))

/-- The modifiers of the field `field` with one more taken into account. -/
def add (field : String) (type : FieldType) (ms : Modifiers) (token : String) :
    Except EntryError Modifiers :=
  let (word, value) := cutValue token
  match Keyword.ofWord? word, value with
  | some .nullable, none => .ok { ms with nullable := true }
  | some .unique, none => .ok { ms with unique := true }
  | some .index, none => .ok { ms with index := true }
  | some .default, none => .ok { ms with default := some .implicit }
  | some .default, some literal =>
    match Default.ofLiteral? type literal with
    | some d => .ok { ms with default := some d }
    | none => .error (.invalidDefault field type literal)
  | _, _ => .error (.unknownModifier field token)

end Modifiers

end Groundwork
