import Groundwork.Template.Token
import Groundwork.Text.Trim

/-!
# Chunks of a template

A template is text with tags in it: `\x7b\x7b … \x7d\x7d` prints an expression,
`\x7b% … %\x7d` is an instruction, and `\x7b# … #\x7d` is a comment. `Chunk.ofSource?` cuts it into
its texts and the tokens of its tags and decides which white space belongs to neither:

* an instruction or comment takes with it the line end right after it and, if nothing but white
  space precedes it on its line, that white space;
* a minus sign at an edge of any tag removes all white space there, and a plus sign keeps it all.
-/

namespace Groundwork.Template

open Text

/-- A piece of a template: text to print as it is, or the tokens of a tag. -/
inductive Chunk
  /-- Text to print. -/
  | text (s : String)
  /-- An expression to print. -/
  | expression (tokens : List Token)
  /-- An instruction. -/
  | instruction (tokens : List Token)
  deriving DecidableEq, Repr

namespace Chunk

/-- The kinds of tags. -/
inductive Tag
  | expression
  | instruction
  | comment
  deriving DecidableEq, Repr

/-! ## Where tags begin and end -/

/-- The tag that a brace and this character open. -/
def Tag.ofMark? : Char → Option Tag
  | '\x7b' => some .expression
  | '%' => some .instruction
  | '#' => some .comment
  | _ => none

/-- The text before the first tag and, if there is a tag, its kind and what follows its mark. -/
def firstTag : List Char → List Char × Option (Tag × List Char)
  | [] => ([], none)
  | [c] => ([c], none)
  | c :: d :: cs =>
    match if c = '\x7b' then Tag.ofMark? d else none with
    | some tag => ([], some (tag, cs))
    | none =>
      let (lead, opened) := firstTag (d :: cs)
      (c :: lead, opened)

/-! Each step of the cutting leaves less to cut. -/

theorem length_of_firstTag {cs lead rest : List Char} {tag : Tag}
    (h : firstTag cs = (lead, some (tag, rest))) : rest.length < cs.length := by
  induction cs generalizing lead with
  | nil => simp [firstTag] at h
  | cons c cs ih =>
    cases cs with
    | nil => simp [firstTag] at h
    | cons d cs =>
      unfold firstTag at h
      split at h
      · simp only [Prod.mk.injEq, Option.some.injEq] at h
        obtain ⟨-, -, rfl⟩ := h
        simp only [List.length_cons]; omega
      · simp only [Prod.mk.injEq] at h
        have := @ih (firstTag (d :: cs)).1 (Prod.ext rfl h.2)
        simp only [List.length_cons] at this ⊢; omega

/-- The edge at the beginning of a tag, and the rest of the tag. -/
def takeEdge : List Char → Edge × List Char
  | '-' :: cs => (.trim, cs)
  | '+' :: cs => (.keep, cs)
  | cs => (.plain, cs)

/-- The edge at the end of a comment whose inside `cs` begins, and what follows the comment;
`before` is the character before `cs`. -/
def endOfComment (before : Option Char) : List Char → Option (Edge × List Char)
  | '#' :: '\x7d' :: cs =>
    some (if before = some '-' then .trim else if before = some '+' then .keep else .plain, cs)
  | c :: cs => endOfComment (some c) cs
  | [] => none

/-! ## White space around tags -/

/-- A character that ends a line. -/
def endsLine (c : Char) : Bool := c = '\n' || c = '\x0d'

/-- Whether only white space precedes what follows `cs` on its line, given the same for `cs`. -/
def blankAfter (blank : Bool) (cs : List Char) : Bool :=
  (cs.reverse.takeWhile (!endsLine ·)).all isBlank && (blank || cs.any endsLine)

/-- `cs` without the white space after its last line end. -/
def dropIndent (cs : List Char) : List Char :=
  (cs.reverse.dropWhile fun c => isBlank c && !endsLine c).reverse

/-- What is printed of the text before a tag. -/
def leadText (blank : Bool) (tag : Tag) (edge : Edge) (lead : List Char) : List Char :=
  match edge with
  | .trim => trimEndChars lead
  | .keep => lead
  | .plain => if tag ≠ .expression && blankAfter blank lead then dropIndent lead else lead

/-- `cs` without the line end that it begins with. -/
def dropLineEnd : List Char → List Char
  | '\x0d' :: '\n' :: cs => cs
  | '\x0d' :: cs => cs
  | '\n' :: cs => cs
  | cs => cs

/-- What is left of the text after a tag, and whether only white space precedes it on its line. -/
def afterTag (tag : Tag) (edge : Edge) (cs : List Char) : Bool × List Char :=
  match edge with
  | .trim => ((cs.takeWhile isBlank).any endsLine, cs.dropWhile isBlank)
  | .keep => (false, cs)
  | .plain =>
    if tag = .expression then (false, cs)
    else
      let rest := dropLineEnd cs
      (decide (rest.length < cs.length), rest)

/-! ## Cutting -/

/-- The end of the tag whose inside `cs` begins: its tokens, its edge, and what follows. -/
def tagEnd : Tag → List Char → Option (List Token × Edge × List Char)
  | .expression, cs => Token.ofTag '\x7d' 0 cs
  | .instruction, cs => Token.ofTag '%' 0 cs
  | .comment, cs => (endOfComment none cs).map fun (edge, after) => ([], edge, after)

theorem length_takeEdge (cs : List Char) : (takeEdge cs).2.length ≤ cs.length := by
  unfold takeEdge
  split <;> simp

theorem length_of_endOfComment {before : Option Char} {cs after : List Char} {edge : Edge}
    (h : endOfComment before cs = some (edge, after)) : after.length ≤ cs.length := by
  fun_induction endOfComment before cs with
  | case1 =>
    simp only [Option.some.injEq, Prod.mk.injEq] at h
    obtain ⟨-, rfl⟩ := h
    simp only [List.length_cons]; omega
  | case2 _ _ _ _ ih => have := ih h; simp only [List.length_cons]; omega
  | case3 => simp at h

theorem length_of_tagEnd {tag : Tag} {cs after : List Char} {edge : Edge} {tokens : List Token}
    (h : tagEnd tag cs = some (tokens, edge, after)) : after.length ≤ cs.length := by
  cases tag with
  | expression => exact Nat.le_of_lt (Token.length_of_ofTag h)
  | instruction => exact Nat.le_of_lt (Token.length_of_ofTag h)
  | comment =>
    obtain ⟨⟨e, a⟩, he, hp⟩ := Option.map_eq_some_iff.1 h
    simp only [Prod.mk.injEq] at hp
    obtain ⟨-, rfl, rfl⟩ := hp
    exact length_of_endOfComment he

theorem length_dropLineEnd (cs : List Char) : (dropLineEnd cs).length ≤ cs.length := by
  unfold dropLineEnd
  split
  · simp only [List.length_cons]; omega
  · simp
  · simp
  · exact Nat.le_refl _

theorem length_afterTag (tag : Tag) (edge : Edge) (cs : List Char) :
    (afterTag tag edge cs).2.length ≤ cs.length := by
  cases edge with
  | trim => exact (List.dropWhile_sublist _).length_le
  | keep => exact Nat.le_refl _
  | plain =>
    by_cases h : tag = .expression
    · simp [afterTag, h]
    · simpa [afterTag, h] using length_dropLineEnd cs

/-- The chunk that a tag with the given tokens makes. -/
def ofTag : Tag → List Token → List Chunk
  | .expression, tokens => [expression tokens]
  | .instruction, tokens => [instruction tokens]
  | .comment, _ => []

/-- The chunk that a text makes. -/
def ofText (cs : List Char) : List Chunk := if cs.isEmpty then [] else [text (String.ofList cs)]

/-- The chunks of `cs`; `blank` says whether only white space precedes it on its line. -/
def cut (blank : Bool) (cs : List Char) : Option (List Chunk) :=
  match _lead : firstTag cs with
  | (lead, none) => some (ofText lead)
  | (lead, some (tag, inside)) =>
    let edge := (takeEdge inside).1
    match _inside : tagEnd tag (takeEdge inside).2 with
    | none => none
    | some (tokens, edge', after) =>
      let next := afterTag tag edge' after
      (cut next.1 next.2).map fun chunks =>
        ofText (leadText blank tag edge lead) ++ ofTag tag tokens ++ chunks
termination_by cs.length
decreasing_by
  have := length_of_firstTag _lead
  have := length_takeEdge inside
  have := length_of_tagEnd _inside
  have := length_afterTag tag edge' after
  omega

/-- The chunks of a template, if all its tags end. -/
def ofSource? (source : String) : Option (List Chunk) := cut true source.toList

end Chunk

end Groundwork.Template
