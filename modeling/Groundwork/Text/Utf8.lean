/-!
# Text as bytes

Text is stored as UTF-8. Writing turns every character into its one to four bytes. Reading goes
through the bytes once, keeping the sequence under way; a byte that cannot continue it ends it as
*damage* and is then read afresh, so that every longest beginning of a sequence that breaks off is
one piece of damage. Strict reading (`decode?`) refuses damage, lenient reading (`decodeLossy`) puts
the replacement character for it.
-/

namespace Groundwork.Text

/-- The UTF-8 bytes of a list of characters. -/
def encodeChars (cs : List Char) : List UInt8 := cs.flatMap String.utf8EncodeChar

/-- The UTF-8 bytes of a text. -/
def encode (s : String) : List UInt8 := encodeChars s.toList

/-- The number of bytes of a text. -/
def byteLength (s : String) : Nat := (encode s).length

namespace Utf8

/-- A sequence of bytes under way: its value so far, how many bytes are missing, and the range that
the next one must lie in. -/
structure Partial where
  /-- The value of the bytes read. -/
  value : Nat
  /-- How many bytes are still to come. -/
  missing : Nat
  /-- The least next byte. -/
  low : Nat
  /-- The greatest next byte. -/
  high : Nat

/-- What has been read by the end of a byte: the characters and the damage (`none`) that are
complete, and the sequence that is under way then. -/
abbrev Progress := List (Option Char) × Option Partial

/-- What has been read after the byte `b` when no sequence was under way. The ranges of the second
byte keep out forms that are longer than needed, surrogates and values past the last code point. -/
def start (b : Nat) : Progress :=
  if b < 0x80 then ([some (Char.ofNat b)], none)
  else if 0xC2 ≤ b ∧ b ≤ 0xDF then ([], some ⟨b - 0xC0, 1, 0x80, 0xBF⟩)
  else if 0xE0 ≤ b ∧ b ≤ 0xEF then
    ([], some ⟨b - 0xE0, 2, if b = 0xE0 then 0xA0 else 0x80, if b = 0xED then 0x9F else 0xBF⟩)
  else if 0xF0 ≤ b ∧ b ≤ 0xF4 then
    ([], some ⟨b - 0xF0, 3, if b = 0xF0 then 0x90 else 0x80, if b = 0xF4 then 0x8F else 0xBF⟩)
  else ([none], none)

/-- What has been read after the byte `b` of a sequence under way. -/
def advance (p : Partial) (b : Nat) : Progress :=
  if p.low ≤ b ∧ b ≤ p.high then
    let value := p.value * 64 + (b - 0x80)
    if p.missing ≤ 1 then ([some (Char.ofNat value)], none)
    else ([], some ⟨value, p.missing - 1, 0x80, 0xBF⟩)
  else
    let (read, next) := start b
    (none :: read, next)

/-- The characters and the damage in a list of bytes that continues `underWay`. -/
def scan : (underWay : Option Partial) → List UInt8 → List (Option Char)
  | none, [] => []
  | some _, [] => [none]
  | none, b :: bytes =>
    let (read, next) := start b.toNat
    read ++ scan next bytes
  | some p, b :: bytes =>
    let (read, next) := advance p b.toNat
    read ++ scan next bytes

end Utf8

/-- The text that `bytes` spell, if they are UTF-8 throughout. -/
def decode? (bytes : List UInt8) : Option String :=
  ((Utf8.scan none bytes).mapM id).map String.ofList

/-- The characters that `bytes` spell, with a replacement character for every piece of damage. -/
def decodeLossy (bytes : List UInt8) : List Char :=
  (Utf8.scan none bytes).map (·.getD '\uFFFD')

end Groundwork.Text
