import Groundwork.Text.Character

/-!
# Identifiers

The shape of the names that generated code is made of: letters and numbers of any script and
underscores, with no number in front.
-/

namespace Groundwork

open Text

/-- Whether every character is a letter, a number or an underscore. -/
def isIdentifierTail (cs : List Char) : Bool := cs.all fun c => isAlphanumeric c || c == '_'

/-- Whether a text can name a field or a relationship: it begins with a letter or an underscore and
goes on with letters, numbers and underscores. -/
def isMemberName (name : String) : Bool :=
  match name.toList with
  | [] => false
  | c :: cs => (isAlphabetic c || c == '_') && isIdentifierTail cs

end Groundwork
