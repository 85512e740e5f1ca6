import Groundwork.Json.Basic
import Groundwork.Json.Number
import Groundwork.Remainder

/-!
# Tokens of JSON

A document is a sequence of brackets, braces, colons, commas and scalars, with blanks between them.
Text is written with escapes and without control characters; a surrogate is understood only as one
of a pair.
-/

namespace Groundwork.Json

open Text

/-- A token of a document. -/
inductive Token
  | openList
  | closeList
  | openObject
  | closeObject
  | colon
  | comma
  /-- A value that is neither a list nor an object. -/
  | scalar (value : Json)

namespace Token

/-- A character that may stand between tokens. -/
def isGap (c : Char) : Bool := c = ' ' || c = '\t' || c = '\n' || c = '\r'

/-! ## Text -/

/-- The value of a hexadecimal digit. -/
def hexValue? (c : Char) : Option Nat :=
  if '0' ≤ c ∧ c ≤ '9' then some (c.toNat - '0'.toNat)
  else if 'a' ≤ c ∧ c ≤ 'f' then some (c.toNat - 'a'.toNat + 10)
  else if 'A' ≤ c ∧ c ≤ 'F' then some (c.toNat - 'A'.toNat + 10)
  else none

/-- The number that four hexadecimal digits denote. -/
def unit? (a b c d : Char) : Option Nat := do
  let a ← hexValue? a
  let b ← hexValue? b
  let c ← hexValue? c
  let d ← hexValue? d
  pure (((a * 16 + b) * 16 + c) * 16 + d)

/-- The character that a backslash and `c` stand for. -/
def escaped? : Char → Option Char
  | '"' => some '"'
  | '\\' => some '\\'
  | '/' => some '/'
  | 'b' => some '\x08'
  | 'f' => some '\x0c'
  | 'n' => some '\n'
  | 'r' => some '\r'
  | 't' => some '\t'
  | _ => none

/-- The second of two surrogates, written with an escape of its own, and what follows it. -/
def low? : (cs : List Char) → Option (Nat × Remainder cs)
  | '\\' :: 'u' :: a :: b :: c :: d :: rest => do
    let low ← unit? a b c d
    if 0xDC00 ≤ low ∧ low ≤ 0xDFFF then
      pure (low, (Remainder.all rest).past.past.past.past.past.past)
    else none
  | _ => none

/-- The character that the digits after `\u` denote, and what follows them. A character that is
written as two surrogates takes a second escape. -/
def character? : (cs : List Char) → Option (Char × Remainder cs)
  | a :: b :: c :: d :: rest => do
    let high ← unit? a b c d
    if 0xDC00 ≤ high ∧ high ≤ 0xDFFF then none
    else if 0xD800 ≤ high ∧ high ≤ 0xDBFF then do
      let (low, rest') ← low? rest
      pure (Char.ofNat (0x10000 + (high - 0xD800) * 0x400 + (low - 0xDC00)),
        rest'.past.past.past.past)
    else pure (Char.ofNat high, (Remainder.all rest).past.past.past.past)
  | _ => none

/-- The text up to the closing quotation mark, and what follows it. -/
def quoted (cs : List Char) : Option (List Char × Remainder cs) :=
  match cs with
  | [] => none
  | '"' :: cs => some ([], (Remainder.all cs).past)
  | '\\' :: 'u' :: cs => do
    let (c, rest) ← character? cs
    let (inside, rest') ← quoted rest.val
    pure (c :: inside, (rest.within rest').past.past)
  | '\\' :: e :: cs => do
    let c ← escaped? e
    let (inside, rest) ← quoted cs
    pure (c :: inside, rest.past.past)
  | c :: cs =>
    if c = '\\' || c < ' ' then none
    else do
      let (inside, rest) ← quoted cs
      pure (c :: inside, rest.past)
termination_by cs.length
decreasing_by
  · have := rest.property
    simp only [List.length_cons]; omega
  · simp only [List.length_cons]; omega
  · simp

/-! ## Words and numbers -/

/-- A character that a number can be spelled with. -/
def isNumeric (c : Char) : Bool :=
  isAsciiDigit c || c = '-' || c = '+' || c = '.' || c = 'e' || c = 'E'

/-- The value that a word stands for. -/
def word? (cs : List Char) : Option Json :=
  if cs = "true".toList then some (.boolean true)
  else if cs = "false".toList then some (.boolean false)
  else if cs = "null".toList then some .null
  else none

/-- The number that `cs` spells, if it is in range. -/
def number? (cs : List Char) : Option Json :=
  if (Number.ofChars? cs).any Number.inRange then some (.number (String.ofList cs)) else none

/-- The token that begins with `c`, and what follows it. -/
def next? (c : Char) (cs : List Char) : Option (Token × Remainder cs) :=
  match c with
  | '[' => some (openList, Remainder.all cs)
  | ']' => some (closeList, Remainder.all cs)
  | '\x7b' => some (openObject, Remainder.all cs)
  | '\x7d' => some (closeObject, Remainder.all cs)
  | ':' => some (colon, Remainder.all cs)
  | ',' => some (comma, Remainder.all cs)
  | '"' => (quoted cs).map fun (inside, rest) => (scalar (.text (String.ofList inside)), rest)
  | c =>
    if isAsciiDigit c || c = '-' then
      let (more, rest) := Remainder.span isNumeric cs
      (number? (c :: more)).map fun value => (scalar value, rest)
    else
      let (more, rest) := Remainder.span isAsciiLetter cs
      (word? (c :: more)).map fun value => (scalar value, rest)

/-- The tokens of a document. -/
def ofChars? (cs : List Char) : Option (List Token) :=
  match cs with
  | [] => some []
  | c :: cs =>
    if isGap c then ofChars? cs
    else
      match next? c cs with
      | none => none
      | some (token, rest) => (ofChars? rest.val).map (token :: ·)
termination_by cs.length
decreasing_by
  · simp
  · have := rest.property
    simp only [List.length_cons]; omega

end Token

end Groundwork.Json
