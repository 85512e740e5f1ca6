import Groundwork.Proofs.Numeral.Signed

/-!
# Number literals of the generated code

The decimal numbers that can be written in the generated code and what they denote
(`Literal.Denotes`). Single underscores may stand between digits, and an integer must not begin with
a zero unless it is zero altogether. What a literal denotes is what a numeral without the
underscores spells (`Denotes.spellsRational`). The other way round, a numeral is a literal for the
number that it spells, unless it is a whole number, not zero, that is padded with zeros; this is no
literal at all (`denotes_iff`).
-/

namespace Groundwork.Literal

open Text Numeral

/-! ## The grammar -/

/-- Digits of a literal: between two of them there may be an underscore. -/
inductive DigitPart : (cs digits : List Char) → Prop
  /-- The last digit. -/
  | last {d : Char} (hd : isAsciiDigit d = true) : DigitPart [d] [d]
  /-- A digit with others after it. -/
  | digit {d : Char} {cs digits : List Char} (hd : isAsciiDigit d = true)
    (h : DigitPart cs digits) : DigitPart (d :: cs) (d :: digits)
  /-- A digit with an underscore and others after it. -/
  | underscore {d : Char} {cs digits : List Char} (hd : isAsciiDigit d = true)
    (h : DigitPart cs digits) : DigitPart (d :: '_' :: cs) (d :: digits)

/-- Digits with a point before, among or after them. -/
inductive PointFloat : (cs whole fraction : List Char) → Prop
  /-- There are digits after the point. -/
  | fraction {front back whole fraction : List Char}
    (hw : front = [] ∧ whole = [] ∨ DigitPart front whole) (hf : DigitPart back fraction) :
    PointFloat (front ++ '.' :: back) whole fraction
  /-- The point comes after the digits. -/
  | point {front whole : List Char} (hw : DigitPart front whole) :
    PointFloat (front ++ ['.']) whole []

/-- The mark of an exponent, a sign or none, and digits. -/
inductive ExponentPart : (cs : List Char) → (e : ℤ) → Prop
  | mk {mark : Char} {sign cs digits : List Char} (hmark : mark = 'e' ∨ mark = 'E')
    (hs : IsSign sign) (h : DigitPart cs digits) :
    ExponentPart (mark :: (sign ++ cs)) (signed sign digits)

/-- A literal without a sign. -/
inductive NumberLiteral : (cs : List Char) → (d : Decimal) → Prop
  /-- An integer: it does not begin with a zero, or it consists of zeros. -/
  | integer {cs digits : List Char} (h : DigitPart cs digits)
    (hz : digits.head? ≠ some '0' ∨ ∀ d ∈ digits, d = '0') : NumberLiteral cs ⟨digits, 0⟩
  /-- A floating-point number without an exponent. -/
  | pointFloat {cs whole fraction : List Char} (h : PointFloat cs whole fraction) :
    NumberLiteral cs ⟨whole ++ fraction, -fraction.length⟩
  /-- A floating-point number with an exponent. -/
  | exponentFloat {front back whole fraction : List Char} {e : ℤ}
    (h : DigitPart front whole ∧ fraction = [] ∨ PointFloat front whole fraction)
    (he : ExponentPart back e) :
    NumberLiteral (front ++ back) ⟨whole ++ fraction, e - fraction.length⟩

/-- A text is a sign or none and a literal, and denotes the exact number `q`. -/
def Denotes : List Char → ℚ → Prop := Signed NumberLiteral

/-- A text is a whole number, not zero, that is padded with zeros. -/
def IsPadded (cs : List Char) : Prop :=
  ∃ sign digits, cs = sign ++ '0' :: digits ∧ IsSign sign ∧
    (∀ d ∈ digits, isAsciiDigit d = true) ∧ ∃ d ∈ digits, d ≠ '0'

/-! ## Literals without their underscores -/

section

variable {cs ds whole fraction : List Char} {c : Char} {d : Decimal} {e : ℤ} {q q' : ℚ}

/-- A text without its underscores. -/
def bare (cs : List Char) : List Char := cs.filter (· ≠ '_')

theorem bare_append (cs ds : List Char) : bare (cs ++ ds) = bare cs ++ bare ds :=
  List.filter_append ..

theorem bare_cons (hc : c ≠ '_') (cs : List Char) : bare (c :: cs) = c :: bare cs :=
  List.filter_cons_of_pos (by simpa using hc)

theorem not_underscore_of_digit (h : isAsciiDigit c = true) : c ≠ '_' := by
  rintro rfl
  exact absurd h (by decide)

theorem bare_of_digits (h : ∀ d ∈ ds, isAsciiDigit d = true) : bare ds = ds :=
  List.filter_eq_self.2 fun d hd => by simpa using not_underscore_of_digit (h d hd)

theorem bare_of_sign (h : IsSign cs) : bare cs = cs := by
  obtain rfl | rfl | rfl := h <;> rfl

theorem DigitPart.ne_nil (h : DigitPart cs ds) : ds ≠ [] := by
  cases h <;> exact List.cons_ne_nil _ _

theorem DigitPart.digits (h : DigitPart cs ds) : ∀ d ∈ ds, isAsciiDigit d = true := by
  induction h with
  | last hd => exact List.forall_mem_singleton.2 hd
  | digit hd _ ih => exact List.forall_mem_cons.2 ⟨hd, ih⟩
  | underscore hd _ ih => exact List.forall_mem_cons.2 ⟨hd, ih⟩

theorem DigitPart.bare_eq (h : DigitPart cs ds) : bare cs = ds := by
  induction h with
  | last hd => exact bare_of_digits (List.forall_mem_singleton.2 hd)
  | digit hd _ ih => rw [bare_cons (not_underscore_of_digit hd), ih]
  | underscore hd _ ih =>
    rw [bare_cons (not_underscore_of_digit hd), ← ih]
    rfl

theorem PointFloat.bare_eq (h : PointFloat cs whole fraction) :
    bare cs = whole ++ '.' :: fraction ∧ whole ++ fraction ≠ [] ∧
      ∀ d ∈ whole ++ fraction, isAsciiDigit d = true := by
  cases h with
  | fraction hw hf =>
    rw [bare_append, bare_cons (by decide), hf.bare_eq]
    obtain ⟨rfl, rfl⟩ | hw := hw
    · exact ⟨rfl, hf.ne_nil, hf.digits⟩
    · exact ⟨by rw [hw.bare_eq], by simp [hw.ne_nil],
        List.forall_mem_append.2 ⟨hw.digits, hf.digits⟩⟩
  | point hw =>
    rw [bare_append, hw.bare_eq]
    exact ⟨rfl, by simp [hw.ne_nil], by simpa using hw.digits⟩

theorem ExponentPart.spells (h : ExponentPart cs e) : SpellsExponent (bare cs) e := by
  obtain ⟨hmark, hs, h⟩ := h
  refine .inr ⟨_, _, bare_cons ?_ _, hmark, _, _, ?_, hs, h.ne_nil, h.digits, rfl⟩
  · obtain rfl | rfl := hmark <;> decide
  · rw [bare_append, bare_of_sign hs, h.bare_eq]

/-- What a literal denotes is spelled by the numeral that is left without the underscores. -/
theorem NumberLiteral.spells (h : NumberLiteral cs d) : SpellsMagnitude (bare cs) d := by
  cases h with
  | @integer _ digits h hz =>
    exact ⟨digits, [], [], [], 0, by simp [h.bare_eq], by simpa using h.ne_nil,
      by simpa using h.digits, .inr ⟨rfl, rfl⟩, .inl ⟨rfl, rfl⟩, by simp⟩
  | @pointFloat _ whole fraction h =>
    obtain ⟨hbare, hne, hall⟩ := h.bare_eq
    exact ⟨whole, ['.'], fraction, [], 0, by simp [hbare], hne, hall, .inl rfl, .inl ⟨rfl, rfl⟩,
      by simp⟩
  | @exponentFloat front back whole fraction e h he =>
    rw [bare_append]
    obtain ⟨h, rfl⟩ | h := h
    · exact ⟨whole, [], [], bare back, e, by simp [h.bare_eq], by simpa using h.ne_nil,
        by simpa using h.digits, .inr ⟨rfl, rfl⟩, he.spells, rfl⟩
    · obtain ⟨hbare, hne, hall⟩ := h.bare_eq
      exact ⟨whole, ['.'], fraction, bare back, e, by simp [hbare], hne, hall, .inl rfl, he.spells,
        rfl⟩

theorem Denotes.spellsRational (h : Denotes cs q) : SpellsRational (bare cs) q := by
  obtain ⟨sign, body, d, rfl, hs, hd, hq⟩ := h
  exact ⟨sign, bare body, d, by rw [bare_append, bare_of_sign hs], hs, hd.spells, hq⟩

/-- Without a point and without an exponent a literal is an integer, which is not padded. -/
theorem NumberLiteral.head (h : NumberLiteral cs d) (hall : ∀ c ∈ bare cs, isAsciiDigit c = true) :
    (bare cs).head? ≠ some '0' ∨ ∀ c ∈ bare cs, c = '0' := by
  cases h with
  | integer h hz => rwa [h.bare_eq]
  | pointFloat h =>
    have hpoint := hall '.' (by simp [h.bare_eq.1])
    exact absurd hpoint (by decide)
  | exponentFloat _ he =>
    obtain @⟨mark, sign, back, _, hmark, -, -⟩ := he
    have hplain : mark ≠ '_' ∧ isAsciiDigit mark = false := by
      obtain rfl | rfl := hmark <;> exact ⟨by decide, by decide⟩
    have hdigit := hall mark (by simp [bare_append, bare_cons hplain.1])
    rw [hplain.2] at hdigit
    cases hdigit

/-! ## Numerals as literals -/

/-- Digits without underscores. -/
theorem digitPart_self (hne : ds ≠ []) (h : ∀ d ∈ ds, isAsciiDigit d = true) : DigitPart ds ds := by
  induction ds with
  | nil => exact absurd rfl hne
  | cons d ds ih =>
    rw [List.forall_mem_cons] at h
    cases ds with
    | nil => exact .last h.1
    | cons => exact .digit h.1 (ih (List.cons_ne_nil _ _) h.2)

theorem pointFloat_of_digits (hne : whole ++ fraction ≠ [])
    (hall : ∀ d ∈ whole ++ fraction, isAsciiDigit d = true) :
    PointFloat (whole ++ '.' :: fraction) whole fraction := by
  obtain ⟨hwhole, hfraction⟩ := List.forall_mem_append.1 hall
  rcases fraction with _ | ⟨c, fraction⟩
  · exact .point (digitPart_self (by simpa using hne) hwhole)
  · refine .fraction ?_ (digitPart_self (List.cons_ne_nil _ _) hfraction)
    rcases whole with _ | ⟨w, whole⟩
    · exact .inl ⟨rfl, rfl⟩
    · exact .inr (digitPart_self (List.cons_ne_nil _ _) hwhole)

theorem exponentPart_of_spells (hne : cs ≠ []) (h : SpellsExponent cs e) : ExponentPart cs e := by
  obtain ⟨rfl, -⟩ | ⟨mark, rest, rfl, hmark, sign, digits, rfl, hs, hdigits, hall, rfl⟩ := h
  · exact absurd rfl hne
  · exact .mk hmark hs (digitPart_self hdigits hall)

/-- After a first digit that is a zero there are no digits but zeros. -/
def IsTight (cs : List Char) : Prop :=
  ∀ digits, cs = '0' :: digits → (∀ d ∈ digits, isAsciiDigit d = true) → ∀ d ∈ digits, d = '0'

/-- Digits that are not padded are an integer. -/
theorem numberLiteral_of_digits (hne : ds ≠ []) (hall : ∀ d ∈ ds, isAsciiDigit d = true)
    (hp : IsTight ds) : NumberLiteral ds ⟨ds, 0⟩ := by
  refine .integer (digitPart_self hne hall) ?_
  rcases ds with _ | ⟨c, ds⟩
  · exact absurd rfl hne
  · by_cases hc : c = '0'
    · subst hc
      exact .inr (List.forall_mem_cons.2 ⟨rfl, hp ds rfl (List.forall_mem_cons.1 hall).2⟩)
    · exact .inl (by simpa using hc)

/-- A decimal number that is not padded is a literal. -/
theorem numberLiteral_of_spells (h : SpellsMagnitude cs d) (hp : IsTight cs) :
    NumberLiteral cs d := by
  obtain ⟨whole, point, fraction, exponent, e, rfl, hne, hall, hpoint, he, rfl⟩ := h
  by_cases hexponent : exponent = []
  · subst hexponent
    obtain rfl : e = 0 := by
      obtain ⟨-, rfl⟩ | ⟨_, _, hcons, -⟩ := he
      · rfl
      · cases hcons
    obtain rfl | ⟨rfl, rfl⟩ := hpoint
    · simpa using NumberLiteral.pointFloat (pointFloat_of_digits hne hall)
    · simp only [List.append_nil] at hne hall hp ⊢
      exact numberLiteral_of_digits hne hall hp
  · have hback := exponentPart_of_spells hexponent he
    obtain rfl | ⟨rfl, rfl⟩ := hpoint
    · simpa using NumberLiteral.exponentFloat (.inr (pointFloat_of_digits hne hall)) hback
    · rw [List.append_nil] at hne hall
      simpa using NumberLiteral.exponentFloat (.inl ⟨digitPart_self hne hall, rfl⟩) hback

theorem bare_of_spellsRational (h : SpellsRational cs q) : bare cs = cs := by
  obtain ⟨sign, _, _, rfl, hs, hmagnitude, -⟩ := h
  obtain ⟨whole, point, fraction, exponent, e, rfl, -, hall, hpoint, he, -⟩ := hmagnitude
  obtain ⟨hwhole, hfraction⟩ := List.forall_mem_append.1 hall
  have hpoint' : bare point = point := by
    obtain rfl | ⟨rfl, -⟩ := hpoint <;> rfl
  have hexponent : bare exponent = exponent := by
    obtain ⟨rfl, -⟩ | ⟨mark, rest, rfl, hmark, sign, digits, rfl, hs, -, hdigits, -⟩ := he
    · rfl
    · have hplain : mark ≠ '_' := by
        obtain rfl | rfl := hmark <;> decide
      rw [bare_cons hplain, bare_append, bare_of_sign hs, bare_of_digits hdigits]
  rw [bare_append, bare_append, bare_append, bare_append, bare_of_sign hs, bare_of_digits hwhole,
    bare_of_digits hfraction, hpoint', hexponent]

theorem IsPadded.point_not_mem (h : IsPadded cs) : '.' ∉ cs := by
  obtain ⟨sign, digits, rfl, hs, hall, -⟩ := h
  rw [List.mem_append, List.mem_cons, not_or, not_or]
  refine ⟨?_, by decide, fun hc => absurd (hall _ hc) (by decide)⟩
  obtain rfl | rfl | rfl := hs <;> decide

/-- What is padded denotes nothing. -/
theorem IsPadded.not_denotes (h : IsPadded cs) : ¬ Denotes cs q := by
  rintro ⟨sign, body, d, rfl, hs, hd, -⟩
  obtain ⟨sign', digits, heq, hs', hall, c, hc, hzero⟩ := h
  have hdigits : ∀ d ∈ '0' :: digits, isAsciiDigit d = true :=
    List.forall_mem_cons.2 ⟨by decide, hall⟩
  -- the sign and the digits are told apart in one way only
  have hbody : bare body = '0' :: digits := by
    have hbare := congrArg bare heq
    rw [bare_append, bare_append, bare_of_sign hs, bare_of_sign hs',
      bare_of_digits hdigits] at hbare
    have htake := takeSign_append hs hd.spells.head
    have hhead : ∀ d ∈ ('0' :: digits).head?, d ≠ '-' ∧ d ≠ '+' := by
      rintro _ ⟨⟩
      decide
    rw [hbare, takeSign_append hs' hhead] at htake
    exact (Prod.mk.inj htake).2.symm
  obtain hhead | hzeros := hd.head (by rwa [hbody])
  · exact hhead (by rw [hbody]; rfl)
  · exact hzero (hzeros c (by simp [hbody, hc]))

/-- **Numerals as literals.** A text that spells an exact number denotes this number and no other,
unless it is padded; then it is no literal. -/
theorem denotes_iff (h : SpellsRational cs q) : Denotes cs q' ↔ q' = q ∧ ¬ IsPadded cs := by
  constructor
  · intro hd
    refine ⟨?_, fun hp => hp.not_denotes hd⟩
    have hspells := hd.spellsRational
    rw [bare_of_spellsRational h] at hspells
    exact hspells.unique h
  · rintro ⟨rfl, hp⟩
    obtain ⟨sign, body, d, rfl, hs, hd, hq⟩ := h
    refine ⟨sign, body, d, rfl, hs, numberLiteral_of_spells hd ?_, hq⟩
    rintro digits rfl hall c hc
    by_contra hzero
    exact hp ⟨sign, digits, rfl, hs, hall, c, hc, hzero⟩

end

end Groundwork.Literal
