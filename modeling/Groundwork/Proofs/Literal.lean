import Groundwork.Literal
import Groundwork.Proofs.Numeral

/-!
# Spellings in the generated code

What a numeral looks like when it is read: a sign, digits, a fraction and an exponent, each but the
digits possibly missing (`integer?_spelled`, `decimal?_spelled`). Quoting puts a text between single
quotes so that inside of them no control character stands (`not_control_of_mem_quoteChars`).
-/

namespace Groundwork

open Text

/-! ## Numerals -/

/-- How a numeral is spelled. -/
structure Numeral where
  /-- The sign, if there is one. -/
  sign : List Char
  /-- The digits before the point. -/
  whole : List Char
  /-- The point and the digits after it, if there is one. -/
  fraction : List Char
  /-- The exponent with its mark, if there is one. -/
  exponent : List Char

namespace Numeral

/-- The characters of a numeral. -/
def spelling (n : Numeral) : List Char := n.sign ++ n.whole ++ n.fraction ++ n.exponent

/-- What holds of the parts of a numeral. -/
structure WellFormed (n : Numeral) : Prop where
  sign : IsSign n.sign
  whole : n.whole.all isAsciiDigit = true
  fraction : n.fraction = [] ∨ ∃ ds, n.fraction = '.' :: ds ∧ ds.all isAsciiDigit = true
  /-- There are digits or a point. -/
  digits : n.whole ≠ [] ∨ n.fraction ≠ []
  exponent : n.exponent = [] ∨ ∃ e sign ds, n.exponent = e :: (sign ++ ds) ∧ (e = 'e' ∨ e = 'E') ∧
    IsSign sign ∧ ds.all isAsciiDigit = true

end Numeral

open Numeral

variable {cs : List Char}

theorem integer?_spelled {n : Int} (h : integer? cs = some n) :
    ∃ m : Numeral, m.WellFormed ∧ m.spelling = cs := by
  obtain ⟨sign, ds, rfl, hs, hne, hds, -⟩ := integer?_iff.1 h
  exact ⟨⟨sign, ds, [], []⟩, ⟨hs, List.all_eq_true.2 hds, .inl rfl, .inl hne, .inl rfl⟩,
    by simp [spelling]⟩

theorem decimal?_spelled {d : Decimal} (h : decimal? cs = some d) :
    ∃ n : Numeral, n.WellFormed ∧ n.spelling = cs := by
  obtain ⟨sign, whole, point, fraction, exponent, e, rfl, hs, hne, hall, hpoint, he, -⟩ :=
    decimal?_iff.1 h
  rw [List.forall_mem_append, ← List.all_eq_true, ← List.all_eq_true] at hall
  refine ⟨⟨sign, whole, point ++ fraction, exponent⟩, ⟨hs, hall.1, ?_, ?_, ?_⟩,
    by simp [spelling]⟩
  · obtain rfl | ⟨rfl, rfl⟩ := hpoint
    · exact .inr ⟨fraction, rfl, hall.2⟩
    · exact .inl rfl
  · obtain rfl | ⟨rfl, rfl⟩ := hpoint
    · exact .inr nofun
    · exact .inl (by simpa using hne)
  · obtain ⟨rfl, -⟩ | ⟨mark, rest, rfl, hmark, sign, ds, rfl, hsign, -, hds, -⟩ := he
    · exact .inl rfl
    · exact .inr ⟨mark, sign, ds, rfl, hmark, hsign, List.all_eq_true.2 hds⟩

/-! ## Quoted texts -/

theorem not_control_hexDigit {n : Nat} (h : n < 16) : isControl (Literal.hexDigit n) = false := by
  have hall : ∀ n < 16, isControl (Literal.hexDigit n) = false := by decide
  exact hall n h

theorem not_control_of_mem_spell {c d : Char} (h : d ∈ Literal.spell c) : isControl d = false := by
  unfold Literal.spell at h
  split at h
  case h_6 =>
    split at h
    · next hc =>
      have hlt : c.toNat < 160 := by
        simp only [isControl, Bool.or_eq_true, Bool.and_eq_true, decide_eq_true_eq] at hc
        omega
      simp only [List.mem_cons, List.not_mem_nil, or_false] at h
      rcases h with rfl | rfl | rfl | rfl
      · decide
      · decide
      · exact not_control_hexDigit (by omega)
      · exact not_control_hexDigit (Nat.mod_lt _ (by decide))
    · next hc =>
      obtain rfl := List.mem_singleton.1 h
      exact Bool.eq_false_iff.2 hc
  -- a quote, a backslash, a line end or a tab is spelled by two characters
  all_goals
    simp only [List.mem_cons, List.not_mem_nil, or_false] at h
    rcases h with rfl | rfl <;> decide

theorem not_control_of_mem_quoteChars {d : Char} (h : d ∈ Literal.quoteChars cs) :
    isControl d = false := by
  simp only [Literal.quoteChars, List.mem_cons, List.mem_append, List.mem_flatMap,
    List.not_mem_nil, or_false] at h
  obtain rfl | ⟨c, -, h⟩ | rfl := h
  · decide
  · exact not_control_of_mem_spell h
  · decide

end Groundwork
