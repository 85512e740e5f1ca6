import Groundwork.Proofs.Numeral
import Mathlib.Algebra.Order.AbsoluteValue.Basic

/-!
# Numbers with their signs

A decimal number in a text has a sign and a magnitude, and the two together are an exact rational
number (`Numeral.SpellsRational`). A text spells one number at most (`SpellsRational.unique`), and
what spells a whole number spells the same number as a decimal one (`SpellsWhole.spellsRational`).
-/

namespace Groundwork

open Text

namespace Decimal

theorem value_nonneg (d : Decimal) : 0 ≤ d.value := by
  rw [value]
  positivity

theorem value_digits (digits : List Char) : value ⟨digits, 0⟩ = digitsValue digits := by
  rw [value, mantissa, zpow_zero, mul_one]

end Decimal

namespace Numeral

/-- A text is a sign or none and a magnitude that `P` finds in what follows, and the number is `q`
if the sign counts. -/
def Signed (P : List Char → Decimal → Prop) (cs : List Char) (q : ℚ) : Prop :=
  ∃ sign body d, cs = sign ++ body ∧ IsSign sign ∧ P body d ∧
    q = if sign = ['-'] then -d.value else d.value

/-- A text without a sign spells a decimal number: one or more digits, with a point somewhere or
without; and an exponent or none. -/
def SpellsMagnitude (cs : List Char) (d : Decimal) : Prop :=
  ∃ whole point fraction exponent e,
    cs = whole ++ (point ++ (fraction ++ exponent)) ∧
    whole ++ fraction ≠ [] ∧ (∀ d ∈ whole ++ fraction, isAsciiDigit d = true) ∧
    (point = ['.'] ∨ point = [] ∧ fraction = []) ∧ SpellsExponent exponent e ∧
    d = ⟨whole ++ fraction, e - fraction.length⟩

/-- A text spells an exact number: a sign or none, and a decimal number. -/
def SpellsRational : List Char → ℚ → Prop := Signed SpellsMagnitude

variable {cs body sign : List Char} {d : Decimal} {q q' : ℚ} {n : Int}

theorem spellsDecimal_iff :
    SpellsDecimal cs d ↔ ∃ sign body, cs = sign ++ body ∧ IsSign sign ∧ SpellsMagnitude body d := by
  constructor
  · rintro ⟨sign, whole, point, fraction, exponent, e, rfl, hs, hrest⟩
    exact ⟨sign, _, rfl, hs, whole, point, fraction, exponent, e, rfl, hrest⟩
  · rintro ⟨sign, body, rfl, hs, whole, point, fraction, exponent, e, rfl, hrest⟩
    exact ⟨sign, whole, point, fraction, exponent, e, rfl, hs, hrest⟩

/-- What has no sign does not begin with one. -/
theorem SpellsMagnitude.head (h : SpellsMagnitude body d) :
    ∀ c ∈ body.head?, c ≠ '-' ∧ c ≠ '+' := by
  obtain ⟨whole, point, fraction, exponent, e, rfl, hne, hall, hpoint, -⟩ := h
  exact not_sign_of_digits (List.forall_mem_append.1 hall).1 hpoint hne exponent

theorem SpellsRational.unique (h : SpellsRational cs q) (h' : SpellsRational cs q') : q = q' := by
  obtain ⟨sign, body, d, rfl, hs, hd, rfl⟩ := h
  obtain ⟨sign', body', d', heq, hs', hd', rfl⟩ := h'
  have htake := takeSign_append hs hd.head
  rw [heq, takeSign_append hs' hd'.head] at htake
  obtain ⟨hminus, rfl⟩ := Prod.mk.inj htake
  have hdecimal := decimal?_iff.2 (spellsDecimal_iff.2 ⟨[], _, rfl, .inl rfl, hd⟩)
  have hdecimal' := decimal?_iff.2 (spellsDecimal_iff.2 ⟨[], _, rfl, .inl rfl, hd'⟩)
  obtain rfl := Option.some.inj (hdecimal.symm.trans hdecimal')
  simp only [decide_eq_decide] at hminus
  simp only [hminus]

/-- The bounds of a number and those of its magnitude. -/
theorem exists_spellsRational_iff (limit : ℚ) :
    (∃ q, SpellsRational cs q ∧ |q| < limit) ↔ ∃ d, SpellsDecimal cs d ∧ d.value < limit := by
  have habs (sign : List Char) (d : Decimal) :
      |if sign = ['-'] then -d.value else d.value| = d.value := by
    split
    · rw [abs_neg, abs_of_nonneg d.value_nonneg]
    · exact abs_of_nonneg d.value_nonneg
  constructor
  · rintro ⟨_, ⟨sign, body, d, rfl, hs, hd, rfl⟩, hq⟩
    rw [habs] at hq
    exact ⟨d, spellsDecimal_iff.2 ⟨sign, body, rfl, hs, hd⟩, hq⟩
  · rintro ⟨d, hd, hlimit⟩
    obtain ⟨sign, body, rfl, hs, hd⟩ := spellsDecimal_iff.1 hd
    refine ⟨_, ⟨sign, body, d, rfl, hs, hd, rfl⟩, ?_⟩
    rwa [habs]

/-- A whole number is a decimal number without a point and without an exponent. -/
theorem SpellsWhole.spellsRational (h : SpellsWhole cs n) : SpellsRational cs n := by
  obtain ⟨sign, digits, rfl, hs, hne, hall, rfl⟩ := h
  refine ⟨sign, digits, ⟨digits, 0⟩, rfl, hs, ⟨digits, [], [], [], 0, by simp, by simpa using hne,
    by simpa using hall, .inr ⟨rfl, rfl⟩, .inl ⟨rfl, rfl⟩, by simp⟩, ?_⟩
  rw [signed, Decimal.value_digits]
  split <;> simp

end Numeral

end Groundwork
