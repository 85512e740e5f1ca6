import Groundwork.Remainder
import Groundwork.Text.Character

/-!
# Tokens of a tag

The inside of a tag is a sequence of tokens: words, numbers, quoted texts and a few signs, with
blanks between them. `Token.ofTag` reads it up to the end of the tag, which is not looked for inside
parentheses or quotes, and tells how the tag treats the white space after it.
-/

namespace Groundwork.Template

open Text

/-- How a tag treats the white space at one of its edges. -/
inductive Edge
  /-- As the surroundings demand. -/
  | plain
  /-- All white space there is removed. -/
  | trim
  /-- All white space there is kept. -/
  | keep
  deriving DecidableEq, Repr

/-- A token inside a tag. -/
inductive Token
  | word (s : String)
  | number (n : Nat)
  | text (s : String)
  | dot
  | comma
  | bar
  | left
  | right
  | minus
  | equal
  | differ
  deriving DecidableEq, Repr

namespace Token

/-- White space inside a tag. -/
def isGap (c : Char) : Bool := c = ' ' || c = '\t' || c = '\n' || c = '\x0c' || c = '\r'

/-- A character that a word can begin with. -/
def beginsWord (c : Char) : Bool := isAsciiLetter c || c == '_'

/-- A character that a word can go on with. -/
def continuesWord (c : Char) : Bool := isAsciiAlphanumeric c || c == '_'

/-- The character that a backslash and `c` stand for in a quoted text. -/
def escaped? : Char → Option Char
  | '"' => some '"'
  | '\'' => some '\''
  | '\\' => some '\\'
  | '/' => some '/'
  | 'b' => some '\x08'
  | 'f' => some '\x0c'
  | 'n' => some '\n'
  | 'r' => some '\r'
  | 't' => some '\t'
  | _ => none

/-- The text up to the closing quotation mark `mark`, and what follows it. -/
def quoted (mark : Char) : (cs : List Char) → Option (List Char × Remainder cs)
  | [] => none
  | '\\' :: [] => none
  | '\\' :: e :: cs => do
    let c ← escaped? e
    let (inside, rest) ← quoted mark cs
    pure (c :: inside, rest.past.past)
  | c :: cs =>
    if c = mark then some ([], (Remainder.all cs).past)
    else do
      let (inside, rest) ← quoted mark cs
      pure (c :: inside, rest.past)

/-- The number that the digit `c` begins. A point or an exponent would make it a fraction, which
templates do not have, and it must fit into a hundred and twenty-eight bits. -/
def number? (c : Char) (cs : List Char) : Option (Token × Remainder cs) :=
  let (digits, rest) := Remainder.span isAsciiDigit cs
  let n := (c :: digits).foldl (fun n d => 10 * n + (d.toNat - '0'.toNat)) 0
  match rest.val with
  | '.' :: _ | 'e' :: _ | 'E' :: _ => none
  | _ => if n < Nat.pow 2 128 then some (.number n, rest) else none

/-- The sign that stands at the beginning, if it is one. -/
def sign? (c : Char) (cs : List Char) : Option (Token × Remainder cs) :=
  match c, cs with
  | '.', cs => some (.dot, Remainder.all cs)
  | ',', cs => some (.comma, Remainder.all cs)
  | '|', cs => some (.bar, Remainder.all cs)
  | '(', cs => some (.left, Remainder.all cs)
  | ')', cs => some (.right, Remainder.all cs)
  | '-', cs => some (.minus, Remainder.all cs)
  | '=', '=' :: cs => some (.equal, (Remainder.all cs).past)
  | '!', '=' :: cs => some (.differ, (Remainder.all cs).past)
  | _, _ => none

/-- The token that begins with `c`. -/
def next? (c : Char) (cs : List Char) : Option (Token × Remainder cs) :=
  if beginsWord c then
    let (letters, rest) := Remainder.span continuesWord cs
    some (.word (String.ofList (c :: letters)), rest)
  else if isAsciiDigit c then number? c cs
  else if c = '"' || c = '\'' then
    (quoted c cs).map fun (inside, rest) => (.text (String.ofList inside), rest)
  else sign? c cs

/-- The end of a tag that closes with `close` and a brace: how it treats what follows, and that. -/
def end? (close : Char) : List Char → Option (Edge × List Char)
  | '-' :: c :: '\x7d' :: cs => if c = close then some (.trim, cs) else none
  | '+' :: c :: '\x7d' :: cs => if c = close then some (.keep, cs) else none
  | c :: '\x7d' :: cs => if c = close then some (.plain, cs) else none
  | _ => none

/-- How many parentheses are open after a token, given how many are before it. -/
def depthAfter (depth : Nat) : Token → Nat
  | left => depth + 1
  | right => depth - 1
  | _ => depth

/-- The tokens of the tag whose inside `cs` begins, the edge at its end, and what follows. -/
def ofTag (close : Char) (depth : Nat) (cs : List Char) :
    Option (List Token × Edge × List Char) :=
  match cs with
  | [] => none
  | c :: rest =>
    if isGap c then ofTag close depth rest
    else
      match if depth = 0 then end? close (c :: rest) else none with
      | some (edge, after) => some ([], edge, after)
      | none =>
        match next? c rest with
        | none => none
        | some (token, rest') => do
          let (tokens, after) ← ofTag close (depthAfter depth token) rest'.val
          pure (token :: tokens, after)
termination_by cs.length
decreasing_by
  · simp
  · have := rest'.property
    simp only [List.length_cons]; omega

theorem length_of_end? {close : Char} {cs after : List Char} {edge : Edge}
    (h : end? close cs = some (edge, after)) : after.length < cs.length := by
  unfold end? at h
  split at h
  · simp only [Option.ite_none_right_eq_some, Option.some.injEq, Prod.mk.injEq] at h
    obtain ⟨-, -, rfl⟩ := h
    simp only [List.length_cons]; omega
  · simp only [Option.ite_none_right_eq_some, Option.some.injEq, Prod.mk.injEq] at h
    obtain ⟨-, -, rfl⟩ := h
    simp only [List.length_cons]; omega
  · simp only [Option.ite_none_right_eq_some, Option.some.injEq, Prod.mk.injEq] at h
    obtain ⟨-, -, rfl⟩ := h
    simp only [List.length_cons]; omega
  · simp at h

theorem length_of_ofTag {close : Char} {depth : Nat} {cs after : List Char} {edge : Edge}
    {tokens : List Token} (h : ofTag close depth cs = some (tokens, edge, after)) :
    after.length < cs.length := by
  fun_induction ofTag close depth cs generalizing tokens with
  | case1 => simp at h
  | case2 depth c rest _ ih => have := ih h; simp only [List.length_cons]; omega
  | case3 depth c rest _ edge' after' he =>
    simp only [Option.some.injEq, Prod.mk.injEq] at h
    obtain ⟨-, -, rfl⟩ := h
    split at he
    · exact length_of_end? he
    · simp at he
  | case4 => simp at h
  | case5 depth c rest _ _ token rest' _ ih =>
    obtain ⟨⟨ts, e, a⟩, hs, hp⟩ := Option.bind_eq_some_iff.1 h
    simp only [Option.pure_def, Option.some.injEq, Prod.mk.injEq] at hp
    obtain ⟨-, rfl, rfl⟩ := hp
    have := ih hs
    have := rest'.property
    simp only [List.length_cons]; omega

end Token

end Groundwork.Template
