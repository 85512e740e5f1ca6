import Groundwork.Text.Character

/-!
# Blanks, controls, letters and digits

The white-space characters are finitely many, `blankPoints`, and none of them is a letter or a
number (`not_blank_of_alphanumeric`). Letters and numbers lie at `0` or after it
(`le_toNat_of_alphanumeric`), and none of them is a control character
(`not_control_of_alphanumeric`). The *clear* characters are those of identifiers together with all
that lie after the controls; no sign that has a meaning in code is one of them.
-/

namespace Groundwork.Text

theorem within_nil (n : Nat) : within [] n = false := rfl

/-- Membership in a set, two turns at a time. -/
theorem within_cons_cons (a b : Nat) (ts : List Nat) (n : Nat) :
    within (a :: b :: ts) n = (decide (a ≤ n) && (decide (n < b) || within ts n)) := by
  by_cases ha : n < a
  · simp [within, ha, Nat.not_le.2 ha]
  · by_cases hb : n < b
    · simp [within, ha, hb, Nat.not_lt.1 ha]
    · simp [within, ha, hb, Nat.not_lt.1 ha]

/-- The code points of the white-space characters. -/
def blankPoints : List Nat :=
  [9, 10, 11, 12, 13, 32, 133, 160, 5760, 8192, 8193, 8194, 8195, 8196, 8197, 8198, 8199, 8200,
    8201, 8202, 8232, 8233, 8239, 8287, 12288]

theorem mem_blankPoints {c : Char} (h : isBlank c = true) : c.toNat ∈ blankPoints := by
  simp only [isBlank, CodePoints.has, whiteSpace, within_cons_cons, within_nil, Bool.and_eq_true,
    Bool.or_eq_true, decide_eq_true_eq, Bool.false_eq_true, or_false] at h
  simp only [blankPoints, List.mem_cons, List.not_mem_nil, or_false]
  omega

/-- No letter or number lies at one of some code points that are outside of both tables. -/
theorem not_mem_of_alphanumeric {points : List Nat}
    (hp : points.all (fun n => !(within alphabetic.turns n || within numeric.turns n)) = true)
    {c : Char} (h : isAlphanumeric c = true) : c.toNat ∉ points := by
  intro hn
  have hc := List.all_eq_true.1 hp _ hn
  simp only [isAlphanumeric, isAlphabetic, isNumeric, CodePoints.has] at h
  simp [h] at hc

theorem not_blank_of_alphanumeric {c : Char} (h : isAlphanumeric c = true) : isBlank c = false := by
  have hp : c.toNat ∉ blankPoints := not_mem_of_alphanumeric (by decide +kernel) h
  exact Bool.eq_false_iff.2 fun hb => hp (mem_blankPoints hb)

theorem le_toNat_of_alphanumeric {c : Char} (h : isAlphanumeric c = true) : 48 ≤ c.toNat := by
  rw [← Nat.not_lt]
  intro hc
  have ha : isAlphabetic c = false := within_of_lt _ (t := 65) (by omega)
  have hn : isNumeric c = false := within_of_lt _ (t := 48) hc
  simp [isAlphanumeric, ha, hn] at h

/-! ## Controls -/

theorem not_control_of_alphanumeric {c : Char} (h : isAlphanumeric c = true) :
    isControl c = false := by
  have hn := le_toNat_of_alphanumeric h
  have hp : c.toNat ∉ List.range' 127 33 := not_mem_of_alphanumeric (by decide +kernel) h
  rw [List.mem_range'_1] at hp
  simp only [isControl, Bool.or_eq_false_iff, Bool.and_eq_false_iff, decide_eq_false_iff_not]
  omega

/-! ## Clear characters -/

/-- A letter, a number, an underscore, or a character after the controls. -/
def isClear (c : Char) : Bool := isAlphanumeric c || c == '_' || decide (160 ≤ c.toNat)

theorem clear_of_alphanumeric {c : Char} (h : isAlphanumeric c = true) : isClear c = true := by
  simp [isClear, h]

theorem clear_of_le {c : Char} (h : 160 ≤ c.toNat) : isClear c = true := by
  simp [isClear, h]

theorem not_control_of_clear {c : Char} (h : isClear c = true) : isControl c = false := by
  simp only [isClear, Bool.or_eq_true, beq_iff_eq, decide_eq_true_eq] at h
  obtain (h | rfl) | h := h
  · exact not_control_of_alphanumeric h
  · decide
  · simp only [isControl, Bool.or_eq_false_iff, Bool.and_eq_false_iff, decide_eq_false_iff_not]
    omega

theorem ne_of_clear {c d : Char} (h : isClear c = true) (hd : isClear d = false) : c ≠ d := by
  rintro rfl
  simp [h] at hd

/-! ## ASCII letters and digits -/

theorem asciiLetter_iff {c : Char} :
    isAsciiLetter c = true ↔ 97 ≤ c.toNat ∧ c.toNat ≤ 122 ∨ 65 ≤ c.toNat ∧ c.toNat ≤ 90 := by
  simp only [isAsciiLetter, Bool.or_eq_true, Bool.and_eq_true, decide_eq_true_eq, Char.le_def,
    UInt32.le_iff_toNat_le]
  rfl

theorem alphanumeric_of_asciiLetter {c : Char} (h : isAsciiLetter c = true) :
    isAlphanumeric c = true := by
  have hall : ((List.range' 97 26 ++ List.range' 65 26).all (within alphabetic.turns)) = true := by
    decide +kernel
  have hm : c.toNat ∈ List.range' 97 26 ++ List.range' 65 26 := by
    have hn := asciiLetter_iff.1 h
    rw [List.mem_append, List.mem_range'_1, List.mem_range'_1]
    omega
  have ha : isAlphabetic c = true := List.all_eq_true.1 hall _ hm
  simp [isAlphanumeric, ha]

theorem asciiDigit_iff {c : Char} : isAsciiDigit c = true ↔ 48 ≤ c.toNat ∧ c.toNat ≤ 57 := by
  simp only [isAsciiDigit, Bool.and_eq_true, decide_eq_true_eq, Char.le_def,
    UInt32.le_iff_toNat_le]
  rfl

theorem alphanumeric_of_asciiDigit {c : Char} (h : isAsciiDigit c = true) :
    isAlphanumeric c = true := by
  have hall : ((List.range' 48 10).all (within numeric.turns)) = true := by decide +kernel
  have hm : c.toNat ∈ List.range' 48 10 := by
    have hn := asciiDigit_iff.1 h
    rw [List.mem_range'_1]
    omega
  have hn : isNumeric c = true := List.all_eq_true.1 hall _ hm
  simp [isAlphanumeric, hn]

theorem toNat_ofNat {n : Nat} (h : n.isValidChar) : (Char.ofNat n).toNat = n := by
  rw [Char.ofNat, dif_pos h]
  rfl

theorem asciiLetter_asciiLower {c : Char} (h : 'A' ≤ c ∧ c ≤ 'Z') :
    isAsciiLetter (asciiLower c) = true := by
  have hc : 65 ≤ c.toNat ∧ c.toNat ≤ 90 := h
  have hn : (Char.ofNat (c.toNat + 32)).toNat = c.toNat + 32 := toNat_ofNat (.inl (by omega))
  rw [asciiLetter_iff, asciiLower, if_pos (by simpa using h), hn]
  omega

/-- The lower-case form of ASCII leaves letters and numbers letters and numbers. -/
theorem alphanumeric_asciiLower {c : Char} (h : isAlphanumeric c = true) :
    isAlphanumeric (asciiLower c) = true := by
  by_cases hc : 'A' ≤ c ∧ c ≤ 'Z'
  · exact alphanumeric_of_asciiLetter (asciiLetter_asciiLower hc)
  · rwa [asciiLower, if_neg (by simpa using hc)]

end Groundwork.Text
