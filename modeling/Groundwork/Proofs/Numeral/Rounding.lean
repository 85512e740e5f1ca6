import Groundwork.Proofs.Numeral
import Mathlib.Data.Int.Log
import Mathlib.Data.Rat.Floor
import Mathlib.Tactic.Linarith

/-!
# Rounding to doubles

A number is rounded to the nearest one with fifty-three binary places, and to the one with an even
last place if two are equally near; what then lies at `2 ^ 1024` or beyond is no finite double. So
the numbers that round to finite doubles are those below `2 ^ 1024 - 2 ^ 970`, half a step past the
greatest double (`rounded_lt_iff`): that number itself lies in the middle between an odd last place
and `2 ^ 1024`, and goes up. This is what a decimal numeral is asked for
(`Decimal.fitsDouble_iff_rounded`).
-/

namespace Groundwork

namespace Double

/-- The whole number nearest to `x`; of two that are equally near, the even one. -/
def nearest (x : ℚ) : ℕ :=
  let n := ⌊x⌋₊
  if x - n < 1 / 2 then n else if 1 / 2 < x - n then n + 1 else if n % 2 = 0 then n else n + 1

/-- The power of two of the last place of `x`: fifty-two places after the first one, unless `x` is
too small for that. -/
def lastPlace (x : ℚ) : ℤ := max (Int.log 2 x) (-1022) - 52

/-- The number with fifty-three binary places that `x` is rounded to, however large it is. -/
def rounded (x : ℚ) : ℚ := nearest (x / 2 ^ lastPlace x) * 2 ^ lastPlace x

variable {x : ℚ}

theorem floor_le_nearest (x : ℚ) : ⌊x⌋₊ ≤ nearest x := by
  unfold nearest
  dsimp only
  split_ifs <;> omega

theorem nearest_le (h : 0 ≤ x) : (nearest x : ℚ) ≤ x + 1 / 2 := by
  have hfloor := Nat.floor_le h
  unfold nearest
  dsimp only
  split_ifs <;> push_cast <;> linarith

/-- Halfway above an odd number one goes up. -/
theorem nearest_le_iff (h : 0 ≤ x) {n : ℕ} (hn : n % 2 = 1) : nearest x ≤ n ↔ x < n + 1 / 2 := by
  have hfloor := Nat.floor_le h
  have hnext := Nat.lt_floor_add_one x
  rcases Nat.lt_trichotomy ⌊x⌋₊ n with hlt | heq | hgt
  · have hstep : (⌊x⌋₊ : ℚ) + 1 ≤ n := by exact_mod_cast hlt
    refine iff_of_true ?_ (by linarith)
    unfold nearest
    dsimp only
    split_ifs <;> omega
  · unfold nearest
    dsimp only
    rw [heq]
    split_ifs with hlow hhigh heven
    · exact iff_of_true le_rfl (by linarith)
    · exact iff_of_false (by omega) (by linarith)
    · omega
    · exact iff_of_false (by omega) (by linarith)
  · have hstep : (n : ℚ) + 1 ≤ ⌊x⌋₊ := by exact_mod_cast hgt
    exact iff_of_false (hgt.trans_le (floor_le_nearest x)).not_ge (by linarith)

/-! ## The last place -/

theorem log_eq {n : ℤ} (h : 2 ^ n ≤ x) (h' : x < 2 ^ (n + 1)) : Int.log 2 x = n := by
  have hpos : 0 < x := lt_of_lt_of_le (by positivity) h
  have hle := (Int.zpow_le_iff_le_log (b := 2) (by decide) hpos).1 (by exact_mod_cast h)
  have hlt := (Int.lt_zpow_iff_log_lt (b := 2) (by decide) hpos).1 (by exact_mod_cast h')
  omega

/-- Rounding moves a number by half a last place at most. -/
theorem rounded_le (h : 0 ≤ x) : rounded x ≤ x + 2 ^ lastPlace x / 2 := by
  have hscale : (0 : ℚ) < 2 ^ lastPlace x := by positivity
  calc rounded x ≤ (x / 2 ^ lastPlace x + 1 / 2) * 2 ^ lastPlace x :=
        mul_le_mul_of_nonneg_right (nearest_le (div_nonneg h hscale.le)) hscale.le
    _ = x + 2 ^ lastPlace x / 2 := by field_simp

/-- The power of two that a number has reached is reached by the rounded number too. -/
theorem le_rounded {n : ℤ} (hn : -1022 ≤ n) (h : 2 ^ n ≤ x) : 2 ^ n ≤ rounded x := by
  have hpos : 0 < x := lt_of_lt_of_le (by positivity) h
  have hlog : n ≤ Int.log 2 x :=
    (Int.zpow_le_iff_le_log (b := 2) (by decide) hpos).1 (by exact_mod_cast h)
  have hplace : lastPlace x = Int.log 2 x - 52 := by
    rw [lastPlace, max_eq_left (by omega)]
  have hscale : (0 : ℚ) < 2 ^ lastPlace x := by positivity
  have hfirst : (2 : ℚ) ^ Int.log 2 x ≤ x := by
    exact_mod_cast Int.zpow_log_le_self (b := 2) (by decide) hpos
  have hsplit : (2 : ℚ) ^ Int.log 2 x = (2 ^ 52 : ℕ) * 2 ^ lastPlace x := by
    rw [hplace, Nat.cast_pow, Nat.cast_ofNat, ← zpow_natCast, ← zpow_add₀ (by norm_num)]
    congr 1
    omega
  have hfloor : 2 ^ 52 ≤ ⌊x / 2 ^ lastPlace x⌋₊ := by
    refine Nat.le_floor ?_
    rwa [le_div_iff₀ hscale, ← hsplit]
  have hnearest : ((2 ^ 52 : ℕ) : ℚ) ≤ nearest (x / 2 ^ lastPlace x) := by
    exact_mod_cast hfloor.trans (floor_le_nearest _)
  calc (2 : ℚ) ^ n ≤ 2 ^ Int.log 2 x := zpow_le_zpow_right₀ (by norm_num) hlog
    _ = (2 ^ 52 : ℕ) * 2 ^ lastPlace x := hsplit
    _ ≤ rounded x := mul_le_mul_of_nonneg_right hnearest hscale.le

/-! ## Finite doubles -/

theorem two_zpow_eq (m n : ℕ) {e : ℤ} (h : e = (m + n : ℕ)) : (2 : ℚ) ^ e = 2 ^ m * 2 ^ n := by
  rw [h, zpow_natCast, pow_add]

/-- Below `2 ^ 1023` the last place is at most half of the last place of the greatest double. -/
theorem lastPlace_le (h : 0 ≤ x) (hx : x < 2 ^ (1023 : ℤ)) : lastPlace x ≤ 970 := by
  rcases h.eq_or_lt with rfl | hpos
  · rw [lastPlace, Int.log_zero_right]
    decide
  · have hlog := (Int.lt_zpow_iff_log_lt (b := 2) (x := 1023) (by decide) hpos).1
      (by exact_mod_cast hx)
    rw [lastPlace]
    omega

theorem lastPlace_eq (h : 2 ^ (1023 : ℤ) ≤ x) (h' : x < 2 ^ (1024 : ℤ)) : lastPlace x = 971 := by
  rw [lastPlace, log_eq h h']
  decide

/-- In steps of twice `half`, `2 ^ 53` steps are reached from half a step below on: the number of
steps before is odd, so halfway one goes up. -/
theorem nearest_lt_iff (h : 0 ≤ x) {half : ℚ} (hpos : 0 < half) :
    nearest (x / (2 * half)) * (2 * half) < 2 ^ 54 * half ↔ x < 2 ^ 54 * half - half := by
  have hstep : 0 < 2 * half := mul_pos two_pos hpos
  have hodd : (2 ^ 53 - 1) % 2 = 1 := by decide
  calc (nearest (x / (2 * half)) : ℚ) * (2 * half) < 2 ^ 54 * half ↔
        (nearest (x / (2 * half)) : ℚ) < (2 ^ 53 : ℕ) := by
        rw [← lt_div_iff₀ hstep]
        field_simp
        norm_num
    _ ↔ nearest (x / (2 * half)) ≤ 2 ^ 53 - 1 := by
        rw [Nat.cast_lt]
        omega
    _ ↔ x / (2 * half) < (2 ^ 53 - 1 : ℕ) + 1 / 2 :=
        nearest_le_iff (div_nonneg h hstep.le) hodd
    _ ↔ x < 2 ^ 54 * half - half := by
        rw [div_lt_iff₀ hstep]
        norm_num
        ring_nf

/-- Just the numbers below half a step past the greatest double round to finite doubles. -/
theorem rounded_lt_iff (h : 0 ≤ x) : rounded x < 2 ^ 1024 ↔ x < 2 ^ 1024 - 2 ^ 970 := by
  -- everything is told in terms of half the step between the greatest doubles
  obtain ⟨half, hhalf⟩ : ∃ half : ℚ, half = 2 ^ 970 := ⟨_, rfl⟩
  have hpos : 0 < half := by
    rw [hhalf]
    positivity
  have hstep : (2 : ℚ) ^ (971 : ℤ) = 2 * half := by
    rw [hhalf, two_zpow_eq 1 970 (by decide), pow_one]
  have hbinade : (2 : ℚ) ^ (1023 : ℤ) = 2 ^ 53 * half := by
    rw [hhalf, two_zpow_eq 53 970 (by decide)]
  have hlimit : (2 : ℚ) ^ (1024 : ℤ) = 2 ^ 54 * half := by
    rw [hhalf, two_zpow_eq 54 970 (by decide)]
  have hlimit' : (2 : ℚ) ^ 1024 = 2 ^ 54 * half := hlimit
  rw [hlimit', ← hhalf]
  rcases lt_or_ge x (2 ^ 53 * half) with hsmall | hlarge
  · have hscale : (2 : ℚ) ^ lastPlace x ≤ half := by
      rw [hhalf]
      exact zpow_le_zpow_right₀ one_le_two (lastPlace_le h (by rwa [hbinade]))
    have hrounded := rounded_le h
    exact iff_of_true (by linarith only [hrounded, hscale, hsmall, hpos])
      (by linarith only [hsmall, hpos])
  · rcases lt_or_ge x (2 ^ 54 * half) with hless | hover
    · rw [rounded, lastPlace_eq (by rwa [hbinade]) (by rwa [hlimit]), hstep]
      exact nearest_lt_iff h hpos
    · have hle : 2 ^ 54 * half ≤ rounded x := by
        rw [← hlimit] at hover ⊢
        exact le_rounded (by decide) hover
      exact iff_of_false hle.not_gt (by linarith only [hover, hpos])

end Double

/-- A decimal numeral fits a double if it rounds to a finite one. -/
theorem Decimal.fitsDouble_iff_rounded {d : Decimal}
    (h : ∀ c ∈ d.digits, Text.isAsciiDigit c = true) :
    d.fitsDouble = true ↔ Double.rounded d.value < 2 ^ 1024 := by
  rw [fitsDouble_iff h, Double.rounded_lt_iff]
  rw [value]
  positivity

end Groundwork
