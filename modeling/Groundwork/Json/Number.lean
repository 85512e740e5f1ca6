import Groundwork.Numeral

/-!
# Numbers of JSON

The spelling of a number in a document, and the range that it must lie in. A number is read with as
many digits as fit into sixty-four bits, and then rounded to a double; `Number.inRange` says that
neither its digits nor their product with the power of ten rounds to infinity.
-/

namespace Groundwork.Json

open Text

/-- The parts of the spelling of a number, without its sign. -/
structure Number where
  /-- The digits before the point. -/
  whole : List Char
  /-- The digits after the point. -/
  fraction : List Char
  /-- The power of ten. -/
  exponent : Int
  deriving DecidableEq, Repr

namespace Number

/-- The parts of the number that `cs` spells. A number has no needless zero in front, and digits
after a point. -/
def ofChars? (cs : List Char) : Option Number :=
  let cs :=
    match cs with
    | '-' :: cs => cs
    | cs => cs
  let whole := cs.takeWhile isAsciiDigit
  let rest := cs.dropWhile isAsciiDigit
  let (fraction, rest) :=
    match rest with
    | '.' :: rest => (rest.takeWhile isAsciiDigit, rest.dropWhile isAsciiDigit)
    | _ => ([], rest)
  let pointed := (cs.dropWhile isAsciiDigit).head? == some '.'
  if whole.isEmpty || whole.head? == some '0' && 1 < whole.length
      || pointed && fraction.isEmpty then none
  else (exponent? rest).map fun e => ⟨whole, fraction, e⟩

/-- The number `n` continued by as many digits as fit into sixty-four bits, and the digits left. -/
def accumulate (n : Nat) : List Char → Nat × List Char
  | [] => (n, [])
  | d :: ds =>
    let n' := 10 * n + (d.toNat - '0'.toNat)
    if n' < Nat.pow 2 64 then accumulate n' ds else (n, d :: ds)

/-- The number with fifty-three significant bits that is nearest to `n`; of two, the even one. -/
def nearest (n : Nat) : Nat :=
  if n < Nat.pow 2 53 then n
  else
    let step := Nat.pow 2 (n.log2 - 52)
    let q := n / step
    let r := n % step
    if step < 2 * r || 2 * r == step && q % 2 == 1 then (q + 1) * step else q * step

/-- Whether a number does not round to infinity. -/
def inRange (x : Number) : Bool :=
  let (n, left) := accumulate 0 x.whole
  let (n, left') := accumulate n x.fraction
  let power : Int := x.exponent + left.length - (x.fraction.length - left'.length : Nat)
  n == 0 || power < 0
    || power ≤ 308 && nearest n * nearest (Nat.pow 10 power.toNat) < doubleLimit

end Number

end Groundwork.Json
