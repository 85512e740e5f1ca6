import Groundwork.Json.Token
import Groundwork.Proofs.Numeral

/-!
# The spelling of numbers in documents

A number is read into the parts that its spelling has, and a text that spells no number is refused
(`Number.ofChars?_iff`).
-/

namespace Groundwork.Json.Number

open Text Numeral

variable {cs : List Char} {x : Number}

/-- A text spells a number with these parts, without a sign: one or more digits, of which the first
one is a zero only if there are no more; nothing, or a point and one or more digits; and an exponent
or none. -/
def SpelledWithoutSign (x : Number) (cs : List Char) : Prop :=
  ∃ point exponent, cs = x.whole ++ (point ++ (x.fraction ++ exponent)) ∧
    x.whole ≠ [] ∧ (x.whole.head? = some '0' → x.whole.length = 1) ∧
    (point = [] ∧ x.fraction = [] ∨ point = ['.'] ∧ x.fraction ≠ []) ∧
    (∀ d ∈ x.whole ++ x.fraction, isAsciiDigit d = true) ∧ SpellsExponent exponent x.exponent

/-- A text spells a number with these parts, with a minus in front or nothing. -/
def SpelledBy (x : Number) (cs : List Char) : Prop :=
  ∃ sign rest, cs = sign ++ rest ∧ (sign = [] ∨ sign = ['-']) ∧ x.SpelledWithoutSign rest

/-- The parts of the number without a sign that `cs` spells. -/
def withoutSign? (cs : List Char) : Option Number :=
  let whole := cs.takeWhile isAsciiDigit
  let rest := cs.dropWhile isAsciiDigit
  let (fraction, rest') :=
    match rest with
    | '.' :: rest => (rest.takeWhile isAsciiDigit, rest.dropWhile isAsciiDigit)
    | _ => ([], rest)
  let pointed := rest.head? == some '.'
  if whole.isEmpty || whole.head? == some '0' && 1 < whole.length
      || pointed && fraction.isEmpty then none
  else (exponent? rest').map fun e => ⟨whole, fraction, e⟩

theorem ofChars?_minus (cs : List Char) : ofChars? ('-' :: cs) = withoutSign? cs := rfl

theorem ofChars?_of_not_minus (h : ∀ c ∈ cs.head?, c ≠ '-') : ofChars? cs = withoutSign? cs := by
  cases cs with
  | nil => rfl
  | cons c cs =>
    have hc : c ≠ '-' := h c rfl
    unfold ofChars?
    split
    · next he =>
      cases he
      exact absurd rfl hc
    · rfl

theorem withoutSign?_eq (cs : List Char) :
    withoutSign? cs =
      let whole := cs.takeWhile isAsciiDigit
      let (fraction, rest) := takeFraction (cs.dropWhile isAsciiDigit)
      let pointed := (cs.dropWhile isAsciiDigit).head? == some '.'
      if whole.isEmpty || whole.head? == some '0' && 1 < whole.length
          || pointed && fraction.isEmpty then none
      else (exponent? rest).map fun e => ⟨whole, fraction, e⟩ := rfl

theorem withoutSign?_iff : withoutSign? cs = some x ↔ x.SpelledWithoutSign cs := by
  rw [withoutSign?_eq]
  constructor
  · intro h
    obtain ⟨point, hcut, hpointed⟩ := exists_cut cs
    rcases hfraction : takeFraction (cs.dropWhile isAsciiDigit) with ⟨fraction, rest⟩
    rw [hfraction] at h hcut
    obtain ⟨hparts, hexponent⟩ := Option.ite_none_left_eq_some.1 h
    obtain ⟨e, he, rfl⟩ := Option.map_eq_some_iff.1 hexponent
    simp only [Bool.or_eq_true, Bool.and_eq_true, beq_iff_eq, decide_eq_true_eq, not_or, not_and,
      List.isEmpty_iff, Nat.not_lt, hpointed] at hparts
    obtain ⟨⟨hne, hzero⟩, hsome⟩ := hparts
    refine ⟨point, rest, hcut.text, hne,
      fun h0 => Nat.le_antisymm (hzero h0) (List.length_pos_iff.2 hne), ?_, hcut.digits,
      exponent?_iff.1 he⟩
    obtain hpoint | hnone := hcut.point
    · exact .inr ⟨hpoint, hsome hpoint⟩
    · exact .inl hnone
  · obtain ⟨whole, fraction, e⟩ := x
    rintro ⟨point, exponent, hcs, hne, hzero, hpoint, hdigits, hexponent⟩
    obtain ⟨htake, hfraction, hpointed⟩ :=
      Cut.taken ⟨hcs, hdigits, hpoint.symm.imp_left And.left⟩ hexponent.not_digit
    have hempty : whole.isEmpty = false := by simpa using hne
    have hlength : (whole.head? == some '0' && decide (1 < whole.length)) = false := by
      simpa using fun h0 => (hzero h0).le
    have hfull : ((cs.dropWhile isAsciiDigit).head? == some '.' && fraction.isEmpty) = false := by
      simp only [Bool.and_eq_false_imp, beq_iff_eq, hpointed, List.isEmpty_eq_false_iff]
      rintro rfl
      exact (hpoint.resolve_left (by simp)).2
    simp only [htake, hfraction, hempty, hlength, hfull, Bool.or_false, Bool.false_eq_true,
      if_false, exponent?_iff.2 hexponent, Option.map_some]

theorem SpelledWithoutSign.digit_head (h : x.SpelledWithoutSign cs) :
    ∃ c rest, cs = c :: rest ∧ isAsciiDigit c = true := by
  obtain ⟨point, exponent, rfl, hne, -, -, hdigits, -⟩ := h
  obtain ⟨c, whole, he⟩ := List.exists_cons_of_ne_nil hne
  rw [he, List.cons_append] at hdigits ⊢
  exact ⟨c, _, rfl, hdigits c List.mem_cons_self⟩

theorem ofChars?_iff : ofChars? cs = some x ↔ x.SpelledBy cs := by
  constructor
  · intro h
    by_cases hc : ∀ c ∈ cs.head?, c ≠ '-'
    · rw [ofChars?_of_not_minus hc, withoutSign?_iff] at h
      exact ⟨[], cs, rfl, .inl rfl, h⟩
    · obtain ⟨rest, rfl⟩ : ∃ rest, cs = '-' :: rest := by
        rcases cs with _ | ⟨c, rest⟩ <;> simp_all
      rw [ofChars?_minus, withoutSign?_iff] at h
      exact ⟨['-'], rest, rfl, .inr rfl, h⟩
  · rintro ⟨sign, rest, rfl, rfl | rfl, h⟩
    · obtain ⟨c, rest', rfl, hc⟩ := h.digit_head
      have hminus : ∀ d ∈ ([] ++ c :: rest').head?, d ≠ '-' := by
        rintro _ ⟨⟩ rfl
        exact absurd hc (by decide)
      rw [ofChars?_of_not_minus hminus, List.nil_append, withoutSign?_iff]
      exact h
    · rw [List.singleton_append, ofChars?_minus, withoutSign?_iff]
      exact h

/-! ## The characters of a number -/

theorem numeric_of_digit {c : Char} (h : isAsciiDigit c = true) : Token.isNumeric c = true := by
  rw [Token.isNumeric, h]
  rfl

theorem numeric_of_spellsExponent {e : Int} (h : SpellsExponent cs e) :
    ∀ c ∈ cs, Token.isNumeric c = true := by
  obtain ⟨rfl, -⟩ | ⟨mark, _, rfl, hmark, sign, digits, rfl, hsign, -, hdigits, -⟩ := h
  · nofun
  · intro c hc
    obtain rfl | hc := List.mem_cons.1 hc
    · obtain rfl | rfl := hmark <;> decide
    · obtain hc | hc := List.mem_append.1 hc
      · obtain rfl | rfl | rfl := hsign
        · cases hc
        · obtain rfl := List.mem_singleton.1 hc
          decide
        · obtain rfl := List.mem_singleton.1 hc
          decide
      · exact numeric_of_digit (hdigits c hc)

theorem SpelledWithoutSign.numeric (h : x.SpelledWithoutSign cs) :
    ∀ c ∈ cs, Token.isNumeric c = true := by
  obtain ⟨point, exponent, rfl, -, -, hpoint, hdigits, hexponent⟩ := h
  obtain ⟨hwhole, hfraction⟩ := List.forall_mem_append.1 hdigits
  simp only [List.forall_mem_append]
  refine ⟨fun c hc => numeric_of_digit (hwhole c hc), ?_,
    fun c hc => numeric_of_digit (hfraction c hc), numeric_of_spellsExponent hexponent⟩
  obtain ⟨rfl, -⟩ | ⟨rfl, -⟩ := hpoint
  · nofun
  · intro c hc
    obtain rfl := List.mem_singleton.1 hc
    decide

/-- A number begins with a digit or a minus and goes on with the characters of numbers. -/
theorem SpelledBy.exists_cons (h : x.SpelledBy cs) :
    ∃ c more, cs = c :: more ∧ (isAsciiDigit c || c = '-') = true ∧
      more.all Token.isNumeric = true := by
  obtain ⟨sign, rest, rfl, rfl | rfl, h⟩ := h
  · obtain ⟨c, more, rfl, hc⟩ := h.digit_head
    refine ⟨c, more, rfl, by rw [hc, Bool.true_or], ?_⟩
    exact List.all_eq_true.2 fun d hd => h.numeric d (List.mem_cons_of_mem c hd)
  · exact ⟨'-', rest, rfl, rfl, List.all_eq_true.2 h.numeric⟩

end Groundwork.Json.Number
