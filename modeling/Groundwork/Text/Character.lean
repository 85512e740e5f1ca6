import Groundwork.Text.Alphabetic
import Groundwork.Text.Numeric
import Groundwork.Text.Uppercase
import Groundwork.Text.Lowercase
import Groundwork.Text.Joiner

/-!
# Classes of characters

The classes that names, literals and word endings are made of. Letters, numbers, cases and blanks
are Unicode properties; the ASCII classes are named as such.
-/

namespace Groundwork.Text

/-- The code points with the property White_Space. -/
def whiteSpace : CodePoints :=
  ⟨[9, 14, 32, 33, 133, 134, 160, 161, 5760, 5761, 8192, 8203, 8232, 8234, 8239, 8240, 8287, 8288,
    12288, 12289]⟩

/-- A white-space character. -/
def isBlank (c : Char) : Bool := whiteSpace.has c

/-- A letter, or a mark that behaves like one. -/
def isAlphabetic (c : Char) : Bool := alphabetic.has c

/-- A digit or other number character of any script. -/
def isNumeric (c : Char) : Bool := numeric.has c

/-- A letter or number of any script. -/
def isAlphanumeric (c : Char) : Bool := isAlphabetic c || isNumeric c

/-- An upper-case letter. -/
def isUppercase (c : Char) : Bool := uppercase.has c

/-- A lower-case letter. -/
def isLowercase (c : Char) : Bool := lowercase.has c

/-- A character that belongs to a word: a letter, a mark, a decimal digit, connecting punctuation or
a join control. -/
def isWordCharacter (c : Char) : Bool := isAlphabetic c || joiner.has c

/-- A control character. -/
def isControl (c : Char) : Bool := c.toNat < 32 || 127 ≤ c.toNat && c.toNat < 160

/-- A letter of the ASCII alphabet. -/
def isAsciiLetter (c : Char) : Bool :=
  'a' ≤ c && c ≤ 'z' || 'A' ≤ c && c ≤ 'Z'

/-- A digit from `0` to `9`. -/
def isAsciiDigit (c : Char) : Bool := '0' ≤ c && c ≤ '9'

/-- A letter or digit of ASCII. -/
def isAsciiAlphanumeric (c : Char) : Bool := isAsciiLetter c || isAsciiDigit c

/-- The upper-case form of an ASCII letter; other characters are their own. -/
def asciiUpper (c : Char) : Char :=
  if 'a' ≤ c && c ≤ 'z' then Char.ofNat (c.toNat - 32) else c

/-- The lower-case form of an ASCII letter; other characters are their own. -/
def asciiLower (c : Char) : Char :=
  if 'A' ≤ c && c ≤ 'Z' then Char.ofNat (c.toNat + 32) else c

end Groundwork.Text
