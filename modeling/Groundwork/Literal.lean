import Groundwork.Text.Character

/-!
# String literals of the generated code

A text as a literal between single quotes. Quotes and backslashes are escaped, line ends and tabs
have short escapes, and every other control character, all of which lie below 256, is written as
`\x` with two hexadecimal digits.
-/

namespace Groundwork.Literal

open Text

/-- The lower-case hexadecimal digit of a number below sixteen. -/
def hexDigit (n : Nat) : Char := Nat.digitChar n

/-- The spelling of a character inside a literal. -/
def spell (c : Char) : List Char :=
  match c with
  | '\\' => ['\\', '\\']
  | '\'' => ['\\', '\'']
  | '\n' => ['\\', 'n']
  | '\r' => ['\\', 'r']
  | '\t' => ['\\', 't']
  | c =>
    if isControl c then ['\\', 'x', hexDigit (c.toNat / 16), hexDigit (c.toNat % 16)] else [c]

/-- The literal of a text. -/
def quoteChars (cs : List Char) : List Char := '\'' :: (cs.flatMap spell ++ ['\''])

/-- The literal of a text. -/
def quote (s : String) : String := String.ofList (quoteChars s.toList)

end Groundwork.Literal
