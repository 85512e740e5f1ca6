import Groundwork.Text.LetterCase

/-!
# Types of fields

The types that a column can have: the words that name them in a specification, in any letter case,
their expression as a column type, and the name to import for it.
-/

namespace Groundwork

/-- A column type. -/
inductive FieldType
  /-- Text of bounded length. -/
  | string
  /-- Text of any length. -/
  | text
  /-- A whole number. -/
  | integer
  /-- A floating-point number. -/
  | float
  /-- A number with two decimal places. -/
  | decimal
  /-- A truth value. -/
  | boolean
  /-- A date with a time. -/
  | dateTime
  /-- A date. -/
  | date
  /-- A JSON document. -/
  | json
  deriving DecidableEq, Repr

namespace FieldType

/-- The words that name a type, in lower case. -/
def words : List (String × FieldType) :=
  [("string", .string), ("str", .string), ("text", .text), ("int", .integer),
    ("integer", .integer), ("float", .float), ("decimal", .decimal), ("numeric", .decimal),
    ("bool", .boolean), ("boolean", .boolean), ("datetime", .dateTime), ("date", .date),
    ("json", .json)]

/-- The type that a word names, in any letter case. -/
def ofWord? (word : String) : Option FieldType := words.lookup (Text.lower word)

/-- The word that stands for the type where it is written out. -/
def name : FieldType → String
  | string => "string"
  | text => "text"
  | integer => "int"
  | float => "float"
  | decimal => "decimal"
  | boolean => "bool"
  | dateTime => "datetime"
  | date => "date"
  | json => "json"

/-- The name to import for the type. -/
def importName : FieldType → String
  | string => "String"
  | text => "Text"
  | integer => "Integer"
  | float => "Float"
  | decimal => "Numeric"
  | boolean => "Boolean"
  | dateTime => "DateTime"
  | date => "Date"
  | json => "JSON"

/-- The expression of the type in a column. -/
def columnType : FieldType → String
  | string => "String(255)"
  | decimal => "Numeric(10, 2)"
  | t => t.importName

/-- The expression for the present moment, as a value of the type. -/
def nowExpression : FieldType → String
  | date => "date.today"
  | _ => "datetime.utcnow"

/-- The default that a column of the type takes when a default is asked for and none is given. -/
def implicitDefault : FieldType → String
  | string | text => "''"
  | integer => "0"
  | float | decimal => "0.0"
  | boolean => "False"
  | dateTime => nowExpression dateTime
  | date => nowExpression date
  | json => "dict"

end FieldType

end Groundwork
