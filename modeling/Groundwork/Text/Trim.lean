import Groundwork.Text.Character

/-!
# Blank ends of text

Trimming removes the white space at one end or at both ends of a text and nothing inside it.
-/

namespace Groundwork.Text

/-- `cs` without the white space at its end. -/
def trimEndChars (cs : List Char) : List Char := (cs.reverse.dropWhile isBlank).reverse

/-- `cs` without the white space at its ends. -/
def trimChars (cs : List Char) : List Char := trimEndChars (cs.dropWhile isBlank)

/-- `s` without the white space at its ends. -/
def trim (s : String) : String := String.ofList (trimChars s.toList)

/-- Whether a text holds white space only. -/
def isBlankText (s : String) : Bool := s.toList.all isBlank

@[simp] theorem toList_trim (s : String) : (trim s).toList = trimChars s.toList :=
  String.toList_ofList

end Groundwork.Text
