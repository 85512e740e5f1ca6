import Groundwork.Numeral
import Groundwork.Proofs.Text.Character
import Mathlib.Algebra.Order.Field.Power
import Mathlib.Data.Rat.Cast.Order
import Mathlib.Tactic.FieldSimp
import Mathlib.Tactic.NormNum
import Mathlib.Tactic.Positivity
import Mathlib.Tactic.Ring

/-!
# Numerals and the numbers they spell

Reading a numeral finds exactly the number that it spells (`integer?_iff`, `decimal?_iff`), and
whether a decimal number rounds to a finite double is told of the number that is meant, however many
digits it has and however large its exponent is (`Decimal.fitsDouble_iff`).
-/

namespace Groundwork

open Text

namespace Numeral

/-- Whether a text is a sign or empty. -/
def IsSign (cs : List Char) : Prop := cs = [] ∨ cs = ['+'] ∨ cs = ['-']

/-- The whole number that digits after a sign denote. -/
def signed (sign digits : List Char) : Int :=
  if sign = ['-'] then -(digitsValue digits : Int) else digitsValue digits

/-- A text spells a whole number: a sign or none, and one or more digits. -/
def SpellsWhole (cs : List Char) (n : Int) : Prop :=
  ∃ sign digits, cs = sign ++ digits ∧ IsSign sign ∧ digits ≠ [] ∧
    (∀ d ∈ digits, isAsciiDigit d = true) ∧ n = signed sign digits

/-- A text spells the exponent of a decimal number: nothing, or `e` or `E` and a whole number. -/
def SpellsExponent (cs : List Char) (e : Int) : Prop :=
  cs = [] ∧ e = 0 ∨ ∃ mark rest, cs = mark :: rest ∧ (mark = 'e' ∨ mark = 'E') ∧ SpellsWhole rest e

/-- A text spells a decimal number: a sign or none; one or more digits, with a point somewhere or
without; and an exponent or none. -/
def SpellsDecimal (cs : List Char) (d : Decimal) : Prop :=
  ∃ sign whole point fraction exponent e,
    cs = sign ++ (whole ++ (point ++ (fraction ++ exponent))) ∧ IsSign sign ∧
    whole ++ fraction ≠ [] ∧ (∀ d ∈ whole ++ fraction, isAsciiDigit d = true) ∧
    (point = ['.'] ∨ point = [] ∧ fraction = []) ∧ SpellsExponent exponent e ∧
    d = ⟨whole ++ fraction, e - fraction.length⟩

end Numeral

open Numeral

variable {cs : List Char}

/-! ## Whole numbers -/

theorem takeSign_append {sign : List Char} (hs : IsSign sign)
    (h : ∀ d ∈ cs.head?, d ≠ '-' ∧ d ≠ '+') :
    takeSign (sign ++ cs) = (decide (sign = ['-']), cs) := by
  obtain rfl | rfl | rfl := hs
  · rcases cs with _ | ⟨d, cs⟩
    · rfl
    · have hd := h d rfl
      rw [List.nil_append, takeSign]
      · rfl
      · rintro _ ⟨⟩
        exact hd.1 rfl
      · rintro _ ⟨⟩
        exact hd.2 rfl
  · rfl
  · rfl

/-- A sign is taken off as far as there is one. -/
theorem takeSign_cases (cs : List Char) :
    ∃ sign, IsSign sign ∧ cs = sign ++ (takeSign cs).2 ∧
      (takeSign cs).1 = decide (sign = ['-']) := by
  unfold takeSign
  split
  · exact ⟨['-'], .inr (.inr rfl), rfl, rfl⟩
  · exact ⟨['+'], .inr (.inl rfl), rfl, rfl⟩
  · exact ⟨[], .inl rfl, rfl, rfl⟩

theorem isDigits_iff : isDigits cs = true ↔ cs ≠ [] ∧ ∀ d ∈ cs, isAsciiDigit d = true := by
  simp [isDigits]

/-- Reading a whole number finds the number that is spelled, and nothing in a text that spells
none. -/
theorem integer?_iff {n : Int} : integer? cs = some n ↔ SpellsWhole cs n := by
  constructor
  · intro h
    obtain ⟨sign, hs, hcs, hneg⟩ := takeSign_cases cs
    simp only [integer?, hneg] at h
    obtain ⟨hd, hn⟩ := Option.ite_none_right_eq_some.1 h
    obtain ⟨hne, hall⟩ := isDigits_iff.1 hd
    refine ⟨sign, (takeSign cs).2, hcs, hs, hne, hall, ?_⟩
    rw [← Option.some.inj hn, signed]
    simp only [decide_eq_true_eq]
  · rintro ⟨sign, digits, rfl, hs, hne, hall, rfl⟩
    have hhead : ∀ d ∈ digits.head?, d ≠ '-' ∧ d ≠ '+' := by
      intro d hd
      have hdigit := hall d (List.mem_of_mem_head? hd)
      constructor <;> rintro rfl <;> exact absurd hdigit (by decide)
    simp only [integer?, takeSign_append hs hhead, isDigits_iff.2 ⟨hne, hall⟩, if_true, signed,
      decide_eq_true_eq]

/-! ## Decimal numbers -/

theorem exponent?_iff {e : Int} : exponent? cs = some e ↔ SpellsExponent cs e := by
  cases cs with
  | nil =>
    rw [exponent?, Option.some.injEq]
    exact ⟨fun h => .inl ⟨rfl, h.symm⟩, fun h => by
      obtain ⟨-, rfl⟩ | ⟨_, _, h, -⟩ := h
      · rfl
      · cases h⟩
  | cons mark rest =>
    rw [exponent?, Option.ite_none_right_eq_some, integer?_iff]
    constructor
    · rintro ⟨hmark, hrest⟩
      exact .inr ⟨mark, rest, rfl, hmark, hrest⟩
    · rintro (⟨h, -⟩ | ⟨_, _, h, hmark, hrest⟩)
      · cases h
      · cases h
        exact ⟨hmark, hrest⟩

theorem Numeral.SpellsExponent.not_digit {e : Int} (h : SpellsExponent cs e) :
    ∀ d ∈ cs.head?, isAsciiDigit d = false ∧ d ≠ '.' := by
  obtain ⟨rfl, -⟩ | ⟨mark, rest, rfl, hmark, -⟩ := h
  · nofun
  · rintro _ ⟨⟩
    obtain rfl | rfl := hmark <;> exact ⟨by decide, by decide⟩

/-- The digits in front of a text that begins with none are taken off as a whole. -/
theorem span_digits {ds : List Char} (hd : ∀ d ∈ ds, isAsciiDigit d = true)
    (hcs : ∀ d ∈ cs.head?, isAsciiDigit d = false) :
    (ds ++ cs).takeWhile isAsciiDigit = ds ∧ (ds ++ cs).dropWhile isAsciiDigit = cs := by
  have hstop : cs.takeWhile isAsciiDigit = [] ∧ cs.dropWhile isAsciiDigit = cs := by
    cases cs with
    | nil => exact ⟨rfl, rfl⟩
    | cons c cs => simp [hcs c rfl]
  rw [List.takeWhile_append_of_pos hd, List.dropWhile_append_of_pos hd, hstop.1, hstop.2]
  exact ⟨List.append_nil ds, rfl⟩

/-- The digits and the point of a decimal number do not begin with a sign. -/
theorem not_sign_of_digits {whole point fraction : List Char}
    (hw : ∀ d ∈ whole, isAsciiDigit d = true) (hp : point = ['.'] ∨ point = [] ∧ fraction = [])
    (hne : whole ++ fraction ≠ []) (rest : List Char) :
    ∀ d ∈ (whole ++ (point ++ (fraction ++ rest))).head?, d ≠ '-' ∧ d ≠ '+' := by
  rcases whole with _ | ⟨c, whole⟩
  · obtain rfl | ⟨-, rfl⟩ := hp
    · rintro _ ⟨⟩
      decide
    · exact absurd rfl hne
  · rintro _ ⟨⟩
    have hdigit := hw c List.mem_cons_self
    constructor <;> rintro rfl <;> exact absurd hdigit (by decide)

/-- The digits after a point, if there is one, and what follows them. -/
def takeFraction (cs : List Char) : List Char × List Char :=
  match cs with
  | '.' :: rest => (rest.takeWhile isAsciiDigit, rest.dropWhile isAsciiDigit)
  | _ => ([], cs)

/-- A text is cut into digits, a point with digits or nothing, and a rest. -/
structure Numeral.Cut (cs whole point fraction rest : List Char) : Prop where
  text : cs = whole ++ (point ++ (fraction ++ rest))
  digits : ∀ d ∈ whole ++ fraction, isAsciiDigit d = true
  point : point = ['.'] ∨ point = [] ∧ fraction = []

/-- What is taken off in front of the exponent is a cut. -/
theorem Numeral.exists_cut (cs : List Char) :
    ∃ point, Cut cs (cs.takeWhile isAsciiDigit) point
      (takeFraction (cs.dropWhile isAsciiDigit)).1 (takeFraction (cs.dropWhile isAsciiDigit)).2 ∧
      ((cs.dropWhile isAsciiDigit).head? = some '.' ↔ point = ['.']) := by
  have hcs : cs.takeWhile isAsciiDigit ++ cs.dropWhile isAsciiDigit = cs :=
    List.takeWhile_append_dropWhile
  have hwhole : ∀ d ∈ cs.takeWhile isAsciiDigit, isAsciiDigit d = true :=
    List.all_eq_true.1 List.all_takeWhile
  generalize cs.takeWhile isAsciiDigit = whole at hcs hwhole
  generalize cs.dropWhile isAsciiDigit = rest at hcs
  subst hcs
  unfold takeFraction
  split
  · next tail =>
    have htail : tail.takeWhile isAsciiDigit ++ tail.dropWhile isAsciiDigit = tail :=
      List.takeWhile_append_dropWhile
    have hfraction : ∀ d ∈ tail.takeWhile isAsciiDigit, isAsciiDigit d = true :=
      List.all_eq_true.1 List.all_takeWhile
    refine ⟨['.'], ⟨?_, List.forall_mem_append.2 ⟨hwhole, hfraction⟩, .inl rfl⟩,
      iff_of_true rfl rfl⟩
    rw [htail, List.singleton_append]
  · next hpoint =>
    refine ⟨[], ⟨rfl, by simpa using hwhole, .inr ⟨rfl, rfl⟩⟩, iff_of_false ?_ (by simp)⟩
    intro hhead
    obtain ⟨tail, rfl⟩ := List.head?_eq_some_iff.1 hhead
    exact hpoint tail rfl

/-- A cut whose rest goes on with neither a digit nor a point is what is taken off. -/
theorem Numeral.Cut.taken {whole point fraction rest : List Char}
    (h : Cut cs whole point fraction rest)
    (hrest : ∀ d ∈ rest.head?, isAsciiDigit d = false ∧ d ≠ '.') :
    cs.takeWhile isAsciiDigit = whole ∧
      takeFraction (cs.dropWhile isAsciiDigit) = (fraction, rest) ∧
      ((cs.dropWhile isAsciiDigit).head? = some '.' ↔ point = ['.']) := by
  obtain ⟨rfl, hdigits, hpoint⟩ := h
  obtain ⟨hwhole, hfraction⟩ := List.forall_mem_append.1 hdigits
  have hrestDigit : ∀ d ∈ rest.head?, isAsciiDigit d = false := fun d hd => (hrest d hd).1
  obtain rfl | ⟨rfl, rfl⟩ := hpoint
  · have hstop : ∀ d ∈ ('.' :: (fraction ++ rest)).head?, isAsciiDigit d = false := by
      rintro _ ⟨⟩
      decide
    obtain ⟨htake, hdrop⟩ := span_digits hwhole hstop
    obtain ⟨htake', hdrop'⟩ := span_digits hfraction hrestDigit
    rw [List.singleton_append, htake, hdrop, takeFraction, htake', hdrop']
    exact ⟨rfl, rfl, iff_of_true rfl rfl⟩
  · obtain ⟨htake, hdrop⟩ := span_digits hwhole hrestDigit
    rw [List.nil_append, List.nil_append, htake, hdrop]
    refine ⟨rfl, ?_, iff_of_false (fun hd => (hrest '.' hd).2 rfl) (by simp)⟩
    unfold takeFraction
    split
    · exact absurd rfl (hrest '.' rfl).2
    · rfl

theorem decimal?_eq (cs : List Char) :
    decimal? cs =
      let whole := (takeSign cs).2.takeWhile isAsciiDigit
      let (fraction, rest) := takeFraction ((takeSign cs).2.dropWhile isAsciiDigit)
      if whole.isEmpty && fraction.isEmpty then none
      else (exponent? rest).map fun e => ⟨whole ++ fraction, e - fraction.length⟩ := rfl

/-- Reading a decimal number finds the digits and the power of ten that are spelled, and nothing in
a text that spells no decimal number. -/
theorem decimal?_iff {d : Decimal} : decimal? cs = some d ↔ SpellsDecimal cs d := by
  rw [decimal?_eq]
  constructor
  · intro h
    obtain ⟨sign, hs, hcs, -⟩ := takeSign_cases cs
    obtain ⟨point, hcut, -⟩ := exists_cut (takeSign cs).2
    rcases hfraction : takeFraction ((takeSign cs).2.dropWhile isAsciiDigit) with ⟨fraction, rest⟩
    rw [hfraction] at h hcut
    obtain ⟨hdigits, hexponent⟩ := Option.ite_none_left_eq_some.1 h
    obtain ⟨e, he, rfl⟩ := Option.map_eq_some_iff.1 hexponent
    exact ⟨sign, _, point, fraction, rest, e, hcs.trans (congrArg (sign ++ ·) hcut.text), hs,
      by simpa using hdigits, hcut.digits, hcut.point, exponent?_iff.1 he, rfl⟩
  · rintro ⟨sign, whole, point, fraction, exponent, e, rfl, hs, hne, hall, hpoint, he, rfl⟩
    have hwhole := (List.forall_mem_append.1 hall).1
    have hsign := takeSign_append hs (not_sign_of_digits hwhole hpoint hne exponent)
    obtain ⟨htake, hfraction, -⟩ := Cut.taken ⟨rfl, hall, hpoint⟩ he.not_digit
    have hempty : (whole.isEmpty && fraction.isEmpty) = false := by simpa using hne
    simp only [hsign, htake, hfraction, hempty, Bool.false_eq_true, if_false, exponent?_iff.2 he,
      Option.map_some]

/-! ## The numbers that digits denote -/

theorem foldl_digits (n : Nat) (cs : List Char) :
    cs.foldl (fun n d => 10 * n + (d.toNat - '0'.toNat)) n =
      n * 10 ^ cs.length + digitsValue cs := by
  induction cs generalizing n with
  | nil => simp [digitsValue]
  | cons c cs ih =>
    have hfirst := ih (10 * 0 + (c.toNat - '0'.toNat))
    rw [digitsValue, List.foldl_cons, List.foldl_cons, ih, hfirst, List.length_cons, Nat.pow_succ]
    ring

theorem digitsValue_cons (c : Char) (cs : List Char) :
    digitsValue (c :: cs) = (c.toNat - '0'.toNat) * 10 ^ cs.length + digitsValue cs := by
  rw [digitsValue, List.foldl_cons, foldl_digits, Nat.mul_zero, Nat.zero_add]

theorem digitsValue_lt (h : ∀ d ∈ cs, isAsciiDigit d = true) : digitsValue cs < 10 ^ cs.length := by
  induction cs with
  | nil => decide
  | cons c cs ih =>
    rw [List.forall_mem_cons, asciiDigit_iff] at h
    have hdigit : c.toNat - '0'.toNat ≤ 9 := Nat.sub_le_of_le_add h.1.2
    have hrest := ih h.2
    have hmul := Nat.mul_le_mul_right (10 ^ cs.length) hdigit
    rw [digitsValue_cons, List.length_cons, Nat.pow_succ]
    omega

theorem le_digitsValue {c : Char} (hc : isAsciiDigit c = true) (h : c ≠ '0') (cs : List Char) :
    10 ^ cs.length ≤ digitsValue (c :: cs) := by
  rw [asciiDigit_iff] at hc
  have hne : c.toNat ≠ 48 := fun he => h (Char.toNat_inj.1 he)
  have hdigit : 1 ≤ c.toNat - '0'.toNat := Nat.le_sub_of_add_le (by
    change 1 + 48 ≤ c.toNat
    omega)
  have hmul := Nat.mul_le_mul_right (10 ^ cs.length) hdigit
  rw [digitsValue_cons]
  omega

theorem digitsValue_dropWhile (cs : List Char) :
    digitsValue (cs.dropWhile (· = '0')) = digitsValue cs := by
  induction cs with
  | nil => rfl
  | cons c cs ih =>
    rw [List.dropWhile_cons]
    split
    · next hc =>
      obtain rfl : c = '0' := by simpa using hc
      rw [ih, digitsValue_cons, Nat.sub_self, Nat.zero_mul, Nat.zero_add]
    · rfl

namespace Decimal

variable {d : Decimal}

/-- The number that the digits and the power of ten denote. -/
def value (d : Decimal) : ℚ := d.mantissa * 10 ^ d.exponent

theorem doubleLimit_bounds : 10 ^ 308 < doubleLimit ∧ doubleLimit < 10 ^ 309 := by
  decide +kernel

theorem cast_doubleLimit : (doubleLimit : ℚ) = 2 ^ 1024 - 2 ^ 970 := by
  have hsum : doubleLimit + 2 ^ 970 = 2 ^ 1024 := by decide +kernel
  rw [eq_sub_iff_add_eq, ← Nat.cast_ofNat, ← Nat.cast_pow, ← Nat.cast_pow, ← Nat.cast_add, hsum]

/-- As many digits as the mantissa has before the point, so many has the number. -/
theorem value_lt {n : Nat} (h : d.mantissa < 10 ^ n) : d.value < 10 ^ (n + d.exponent) := by
  have hcast : (d.mantissa : ℚ) < 10 ^ n := by exact_mod_cast h
  rw [value, zpow_add₀ (by norm_num), zpow_natCast]
  exact mul_lt_mul_of_pos_right hcast (by positivity)

theorem le_value {n : Nat} (h : 10 ^ n ≤ d.mantissa) : 10 ^ (n + d.exponent) ≤ d.value := by
  have hcast : (10 : ℚ) ^ n ≤ d.mantissa := by exact_mod_cast h
  rw [value, zpow_add₀ (by norm_num), zpow_natCast]
  exact mul_le_mul_of_nonneg_right hcast (by positivity)

/-- Comparing without a fraction: the power of ten goes to the side where it is a whole number. -/
theorem value_lt_iff (limit : Nat) :
    d.value < limit ↔ d.mantissa * 10 ^ d.exponent.toNat < limit * 10 ^ (-d.exponent).toNat := by
  have hpow : (10 : ℚ) ^ d.exponent = 10 ^ d.exponent.toNat / 10 ^ (-d.exponent).toNat := by
    rw [← zpow_natCast, ← zpow_natCast, ← zpow_sub₀ (by norm_num), Int.toNat_sub_toNat_neg]
  rw [value, hpow, ← mul_div_assoc, div_lt_iff₀ (by positivity)]
  exact_mod_cast Iff.rfl

/-- Whether a number rounds to a finite double is decided by the exact number that it spells, for
any number of digits and any exponent. -/
theorem fitsDouble_iff (h : ∀ c ∈ d.digits, isAsciiDigit c = true) :
    d.fitsDouble = true ↔ d.value < 2 ^ 1024 - 2 ^ 970 := by
  rw [← cast_doubleLimit]
  have hlow : (10 : ℚ) ^ (308 : ℤ) < doubleLimit := by exact_mod_cast doubleLimit_bounds.1
  have hhigh : (doubleLimit : ℚ) < 10 ^ (309 : ℤ) := by exact_mod_cast doubleLimit_bounds.2
  have hmantissa : digitsValue (d.digits.dropWhile (· = '0')) = d.mantissa :=
    digitsValue_dropWhile _
  have hdigits : ∀ c ∈ d.digits.dropWhile (· = '0'), isAsciiDigit c = true :=
    fun c hc => h c ((List.dropWhile_sublist _).subset hc)
  unfold fitsDouble
  dsimp only
  rcases hs : d.digits.dropWhile (· = '0') with _ | ⟨c, cs⟩ <;> rw [hs] at hmantissa hdigits
  · have hzero : d.value = 0 := by
      rw [value, ← hmantissa]
      exact zero_mul _
    have hpos : (0 : ℚ) < doubleLimit := by exact_mod_cast (by decide +kernel : 0 < doubleLimit)
    rw [List.isEmpty_nil, Bool.true_or, hzero]
    exact iff_of_true rfl hpos
  · have hfirst : c ≠ '0' := by
      have hhead := List.head?_dropWhile_not (· = '0') d.digits
      rw [hs] at hhead
      simpa using hhead
    have hlower := le_value (hmantissa ▸ le_digitsValue (hdigits c List.mem_cons_self) hfirst cs)
    have hupper := value_lt (hmantissa ▸ digitsValue_lt hdigits)
    have hten : (1 : ℚ) ≤ 10 := by norm_num
    rw [List.isEmpty_cons, Bool.false_or, List.length_cons, Nat.cast_succ]
    split_ifs with hless hmore
    · rw [decide_eq_true_eq] at hless
      have hle : (10 : ℚ) ^ (cs.length + 1 + d.exponent) ≤ 10 ^ (308 : ℤ) :=
        zpow_le_zpow_right₀ hten (by omega)
      exact iff_of_true (by decide) (hupper.trans (hle.trans_lt hlow))
    · have hle : (10 : ℚ) ^ (309 : ℤ) ≤ 10 ^ (cs.length + d.exponent) :=
        zpow_le_zpow_right₀ hten (by omega)
      exact iff_of_false (by decide) (hhigh.trans_le (hle.trans hlower)).not_gt
    · rw [value_lt_iff]
      exact decide_eq_true_iff

end Decimal

/-! ## Numerals within their bounds -/

theorem integer?_any_fitsWord :
    (integer? cs).any fitsWord = true ↔ ∃ n, SpellsWhole cs n ∧ -2 ^ 63 ≤ n ∧ n < 2 ^ 63 := by
  rw [Option.any_eq_true]
  refine exists_congr fun n => and_congr integer?_iff ?_
  rw [fitsWord, Bool.and_eq_true, decide_eq_true_eq, decide_eq_true_eq]
  exact Iff.rfl

theorem Numeral.SpellsDecimal.digits {d : Decimal} (h : SpellsDecimal cs d) :
    ∀ c ∈ d.digits, isAsciiDigit c = true := by
  obtain ⟨_, _, _, _, _, _, -, -, -, hall, -, -, rfl⟩ := h
  exact hall

theorem decimal?_any_fitsDouble :
    (decimal? cs).any Decimal.fitsDouble = true ↔
      ∃ d, SpellsDecimal cs d ∧ d.value < 2 ^ 1024 - 2 ^ 970 := by
  rw [Option.any_eq_true]
  refine exists_congr fun d => ?_
  rw [decimal?_iff]
  exact and_congr_right fun h => Decimal.fitsDouble_iff h.digits

end Groundwork
