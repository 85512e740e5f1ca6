import Groundwork.Text.Character

/-!
# Numerals

The spelling of whole and decimal numbers, and the exact bounds that a number must respect to be
held in sixty-four bits. A numeral is read into the number it denotes, without rounding, so that the
bounds are inequalities between exact numbers: `fitsWord` for whole numbers, and for decimal ones
`Decimal.fitsDouble`, which asks for a magnitude that rounds to a finite double.
-/

namespace Groundwork

open Text

/-- The number that decimal digits denote. -/
def digitsValue (digits : List Char) : Nat :=
  digits.foldl (fun n d => 10 * n + (d.toNat - '0'.toNat)) 0

/-- A sign, if there is one, taken off: whether it is a minus, and the rest. -/
def takeSign : List Char → Bool × List Char
  | '-' :: cs => (true, cs)
  | '+' :: cs => (false, cs)
  | cs => (false, cs)

/-- Whether `cs` is one or more digits. -/
def isDigits (cs : List Char) : Bool := !cs.isEmpty && cs.all isAsciiDigit

/-! ## Whole numbers -/

/-- The whole number that `cs` spells: a sign or none, then digits. -/
def integer? (cs : List Char) : Option Int :=
  let (negative, digits) := takeSign cs
  if isDigits digits then
    some (if negative then -(digitsValue digits : Int) else digitsValue digits)
  else none

/-- The magnitude of the least signed sixty-four bit word, one more than that of the greatest. -/
def wordLimit : Nat := Nat.pow 2 63

/-- Whether a whole number lies in the range of a signed sixty-four bit word. -/
def fitsWord (n : Int) : Bool := decide (-(wordLimit : Int) ≤ n) && decide (n < wordLimit)

/-! ## Decimal numbers -/

/-- The magnitude of a decimal number: digits, and the power of ten that the last one counts. -/
structure Decimal where
  /-- The digits, of the whole part and of the fraction. -/
  digits : List Char
  /-- The power of ten of the last digit. -/
  exponent : Int
  deriving DecidableEq

/-- The exponent that `cs` spells after the digits of a number: nothing, or `e` and a whole
number. -/
def exponent? : List Char → Option Int
  | [] => some 0
  | e :: cs => if e = 'e' ∨ e = 'E' then integer? cs else none

/-- The magnitude of the decimal number that `cs` spells: a sign or none, digits with or without a
point and at least one digit, and an exponent or none. -/
def decimal? (cs : List Char) : Option Decimal :=
  let body := (takeSign cs).2
  let whole := body.takeWhile isAsciiDigit
  let rest := body.dropWhile isAsciiDigit
  let (fraction, rest) :=
    match rest with
    | '.' :: rest => (rest.takeWhile isAsciiDigit, rest.dropWhile isAsciiDigit)
    | _ => ([], rest)
  if whole.isEmpty && fraction.isEmpty then none
  else (exponent? rest).map fun e => ⟨whole ++ fraction, e - fraction.length⟩

/-- The least magnitude that rounds to infinity: half a step past the greatest double. -/
def doubleLimit : Nat := Nat.pow 2 1024 - Nat.pow 2 970

namespace Decimal

/-- The number that the digits denote. -/
def mantissa (d : Decimal) : Nat := digitsValue d.digits

/-- Whether the magnitude lies below `doubleLimit`. As the limit has 309 digits, counting the
digits before the point settles every case but that of 309; only there are the powers formed. -/
def fitsDouble (d : Decimal) : Bool :=
  let significant := d.digits.dropWhile (· = '0')
  let size : Int := significant.length + d.exponent
  if significant.isEmpty || decide (size < 309) then true
  else if 309 < size then false
  else
    decide (d.mantissa * Nat.pow 10 d.exponent.toNat
      < doubleLimit * Nat.pow 10 (-d.exponent).toNat)

end Decimal

end Groundwork
