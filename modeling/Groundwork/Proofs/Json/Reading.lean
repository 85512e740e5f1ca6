import Groundwork.Json.Printer
import Groundwork.Json.Reader
import Groundwork.Proofs.Json.Text

/-!
# Reading what is printed

What is printed for a text spells it, whatever its characters are
(`Json.Token.spellsText_flatMap_spell`), so that the text is read back. Tokens are read one by one,
each whatever follows it, so that the tokens of a document with unknown texts in it can be told.
-/

namespace Groundwork.Json

open Text

namespace Token

/-! ## Texts -/

theorem hexValue?_digitChar {n : Nat} (h : n < 16) : hexValue? (Nat.digitChar n) = some n := by
  revert n
  decide

/-- The digits that are printed for a control character denote its code point. -/
theorem unit?_control {c : Char} (hc : c < ' ') :
    unit? '0' '0' (Nat.digitChar (c.toNat / 16)) (Nat.digitChar (c.toNat % 16)) =
      some c.toNat := by
  have hn : c.toNat < 32 := hc
  have hzero : hexValue? '0' = some 0 := by decide
  simp only [unit?, hzero, hexValue?_digitChar (show c.toNat / 16 < 16 by omega),
    hexValue?_digitChar (show c.toNat % 16 < 16 by omega), Option.bind_eq_bind, Option.bind_some,
    Option.pure_def, Option.some.injEq]
  omega

/-- The characters that are spelled with a sign of their own after a backslash. -/
def shortened : List Char := ['"', '\\', '\x08', '\x0c', '\n', '\r', '\t']

theorem spell_of_not_mem {c : Char} (h : c ∉ shortened) :
    spell c = if c < ' ' then
      ['\\', 'u', '0', '0', Nat.digitChar (c.toNat / 16), Nat.digitChar (c.toNat % 16)]
    else [c] := by
  simp only [shortened, List.mem_cons, List.not_mem_nil, or_false, not_or] at h
  obtain ⟨hquote, hslash, hb, hf, hn, hr, ht⟩ := h
  exact spell.eq_8 c hquote hslash hb hf hn hr ht

/-- What is printed for a character spells it. -/
theorem spellsCharacter_spell (c : Char) : SpellsCharacter (spell c) c := by
  by_cases hc : c ∈ shortened
  · simp only [shortened, List.mem_cons, List.not_mem_nil, or_false] at hc
    obtain rfl | rfl | rfl | rfl | rfl | rfl | rfl := hc
    all_goals exact .sign rfl
  · rw [spell_of_not_mem hc]
    simp only [shortened, List.mem_cons, List.not_mem_nil, or_false, not_or] at hc
    split
    · next hcontrol =>
      have hn : c.toNat < 32 := hcontrol
      have hdigits := SpellsCharacter.digits (unit?_control hcontrol) (by omega)
      rwa [Char.ofNat_toNat] at hdigits
    · next hcontrol => exact .itself hc.1 hc.2.1 hcontrol

/-- What is printed for a text spells it. -/
theorem spellsText_flatMap_spell (cs : List Char) : SpellsText (cs.flatMap spell) cs := by
  induction cs with
  | nil => exact .nil
  | cons c cs ih =>
    rw [List.flatMap_cons]
    exact .cons (spellsCharacter_spell c) ih

/-! ## One token after the other -/

section Steps

variable {c : Char} {cs rest : List Char} {token : Token}

theorem ofChars?_gap (hc : isGap c = true) : ofChars? (c :: cs) = ofChars? cs := by
  rw [ofChars?, if_pos hc]

theorem ofChars?_next {r : Remainder cs} (hc : isGap c = false) (h : next? c cs = some (token, r)) :
    ofChars? (c :: cs) = (ofChars? r.val).map (token :: ·) := by
  rw [ofChars?, if_neg (by simp [hc]), h]

theorem ofChars?_newLine (depth : Nat) (cs : List Char) :
    ofChars? (newLine depth ++ cs) = ofChars? cs := by
  rw [newLine, List.cons_append, ofChars?_gap rfl]
  generalize 2 * depth = n
  induction n with
  | zero => rfl
  | succ n ih => rw [List.replicate_succ, List.cons_append, ofChars?_gap rfl, ih]

theorem ofChars?_quote (cs rest : List Char) :
    ofChars? (quote cs ++ rest) =
      (ofChars? rest).map (scalar (.text (String.ofList cs)) :: ·) := by
  obtain ⟨r, hr, hrest⟩ := quoted_complete (spellsText_flatMap_spell cs) rest
  have hnext : next? '"' (cs.flatMap spell ++ '"' :: rest) =
      some (scalar (.text (String.ofList cs)), r) := by
    simp [next?, hr]
  have happend : quote cs ++ rest = '"' :: (cs.flatMap spell ++ '"' :: rest) := by
    simp [quote]
  rw [happend, ofChars?_next rfl hnext, hrest]

/-- What satisfies a test is read up to the first thing that does not. -/
theorem span_append {α : Type} {p : α → Bool} {xs ys : List α} (hxs : xs.all p = true)
    (hys : ∀ y ∈ ys.head?, p y = false) :
    ∃ r, Remainder.span p (xs ++ ys) = (xs, r) ∧ r.val = ys := by
  have hstop : ys.takeWhile p = [] ∧ ys.dropWhile p = ys := by
    cases ys with
    | nil => exact ⟨rfl, rfl⟩
    | cons y ys => simp [hys y rfl]
  have htake : (xs ++ ys).takeWhile p = xs := by
    rw [List.takeWhile_append_of_pos (List.all_eq_true.1 hxs), hstop.1, List.append_nil]
  have hdrop : (xs ++ ys).dropWhile p = ys := by
    rw [List.dropWhile_append_of_pos (List.all_eq_true.1 hxs), hstop.2]
  exact ⟨(Remainder.span p (xs ++ ys)).2, Prod.ext htake rfl, hdrop⟩

/-- A truth value is read up to a character that is no letter. -/
theorem ofChars?_boolean (b : Bool) (hc : isAsciiLetter c = false) :
    ofChars? ((if b then "true" else "false").toList ++ c :: cs) =
      (ofChars? (c :: cs)).map (scalar (.boolean b) :: ·) := by
  have hstop : ∀ d ∈ (c :: cs).head?, isAsciiLetter d = false := by
    rintro _ ⟨⟩
    exact hc
  cases b
  · obtain ⟨r, hr, hrest⟩ := @span_append _ _ "alse".toList _ (by decide) hstop
    have hnext : next? 'f' ("alse".toList ++ c :: cs) = some (scalar (.boolean false), r) := by
      simp only [next?, hr]
      rfl
    exact (ofChars?_next rfl hnext).trans (by rw [hrest])
  · obtain ⟨r, hr, hrest⟩ := @span_append _ _ "rue".toList _ (by decide) hstop
    have hnext : next? 't' ("rue".toList ++ c :: cs) = some (scalar (.boolean true), r) := by
      simp only [next?, hr]
      rfl
    exact (ofChars?_next rfl hnext).trans (by rw [hrest])

end Steps

end Token

end Groundwork.Json
