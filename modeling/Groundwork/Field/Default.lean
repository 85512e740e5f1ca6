import Groundwork.Entry.Error
import Groundwork.Literal
import Groundwork.Numeral

/-!
# Defaults of fields

The default of a column: either the natural one of its type, or a literal that has been checked
against the type. Numbers are kept as they were typed.
-/

namespace Groundwork

open Text

/-- The default of a column. -/
inductive Default
  /-- The natural default of the type. -/
  | implicit
  /-- A text. -/
  | text (value : String)
  /-- A number, as typed. -/
  | number (literal : String)
  /-- A truth value. -/
  | boolean (value : Bool)
  /-- The moment at which the row is made. -/
  | now
  deriving DecidableEq, Repr

namespace Default

/-- The words for the truth values, in lower case. -/
def booleanWords : List (String × Bool) :=
  [("true", true), ("1", true), ("false", false), ("0", false)]

/-- The default that a literal denotes in a column of a type, if it fits. -/
def ofLiteral? (type : FieldType) (value : String) : Option Default :=
  match type with
  | .string | .text => some (.text value)
  | .integer =>
    if (integer? value.toList).any fitsWord then some (.number value) else none
  | .float | .decimal =>
    if (decimal? value.toList).any Decimal.fitsDouble then some (.number value) else none
  | .boolean => (booleanWords.lookup (lower value)).map .boolean
  | .dateTime | .date =>
    if value.toList.map asciiLower = "now".toList then some .now else none
  | .json => none

/-- The expression of a default in the generated code. -/
def expression (type : FieldType) : Default → String
  | implicit => type.implicitDefault
  | text value => Literal.quote value
  | number literal => literal
  | boolean true => "True"
  | boolean false => "False"
  | now => type.nowExpression

end Default

end Groundwork
