import Groundwork.Proofs.Text.LetterCase

/-!
# Upper-case letters

An upper-case letter is its own upper-case form (`upperForm_of_uppercase`), and it is a letter
(`alphabetic_of_uppercase`). Both are facts about tables: the mapping to upper case is about no code
point that has the property Uppercase, and the code points with that property lie among those with
the property Alphabetic. To compare a table with a list of points, the points are swept through from
the least one on, and of the turns of the table only those still ahead are kept (`sweep`,
`within_of_sweep`); so each turn is looked at once.
-/

namespace Groundwork.Text

/-! ## Sweeping through a table -/

/-- What a sweep knows once it has come to `n`: whether `n` lies inside, and the turns ahead. -/
def sweepTo (n : Nat) : Bool → List Nat → Bool × List Nat
  | inside, [] => (inside, [])
  | inside, t :: ts => if n < t then (inside, t :: ts) else sweepTo n (!inside) ts

/-- Whether all points of an increasing list lie inside, if `want` is true, or else outside; the
sweep has come to `last`. -/
def sweep (want inside : Bool) (turns : List Nat) (last : Nat) : List Nat → Bool
  | [] => true
  | n :: ns =>
    let (inside, turns) := sweepTo n inside turns
    decide (last ≤ n) && inside == want && sweep want inside turns n ns

theorem sweepTo_fst (n : Nat) (inside : Bool) (turns : List Nat) :
    (sweepTo n inside turns).1 = (inside ^^ within turns n) := by
  induction turns generalizing inside with
  | nil => simp [sweepTo, within]
  | cons t ts ih =>
    by_cases h : n < t
    · simp [sweepTo, within, h]
    · simp [sweepTo, within, h, ih]

/-- Sweeping on from a point on the way makes no difference. -/
theorem sweepTo_sweepTo {m n : Nat} (h : m ≤ n) (inside : Bool) (turns : List Nat) :
    sweepTo n (sweepTo m inside turns).1 (sweepTo m inside turns).2 = sweepTo n inside turns := by
  induction turns generalizing inside with
  | nil => rfl
  | cons t ts ih =>
    by_cases hm : m < t
    · simp [sweepTo, hm]
    · rw [sweepTo, if_neg hm, ih, sweepTo, if_neg (by omega : ¬n < t)]

theorem mem_sweep {want inside : Bool} {turns ns : List Nat} {last n : Nat}
    (h : sweep want inside turns last ns = true) (hn : n ∈ ns) :
    last ≤ n ∧ (sweepTo n inside turns).1 = want := by
  induction ns generalizing inside turns last with
  | nil => cases hn
  | cons m ns ih =>
    simp only [sweep, Bool.and_eq_true, decide_eq_true_eq, beq_iff_eq] at h
    obtain ⟨⟨hle, hwant⟩, hrest⟩ := h
    rcases List.mem_cons.1 hn with rfl | hn
    · exact ⟨hle, hwant⟩
    · obtain ⟨hmn, htail⟩ := ih hrest hn
      rw [sweepTo_sweepTo hmn] at htail
      exact ⟨Nat.le_trans hle hmn, htail⟩

theorem within_of_sweep {want : Bool} {turns ns : List Nat}
    (h : sweep want false turns 0 ns = true) {n : Nat} (hn : n ∈ ns) : within turns n = want := by
  have hsweep := (mem_sweep h hn).2
  rwa [sweepTo_fst, Bool.false_xor] at hsweep

/-! ## The points of tables -/

/-- The points that lie inside, where each second turn ends a block. -/
def spread : List Nat → List Nat
  | a :: b :: turns => List.range' a (b - a) ++ spread turns
  | _ => []

theorem mem_spread {turns : List Nat} (he : turns.length % 2 = 0) {n : Nat}
    (h : within turns n = true) : n ∈ spread turns := by
  fun_induction spread turns with
  | case1 a b turns ih =>
    rw [within_cons_cons, Bool.and_eq_true, Bool.or_eq_true, decide_eq_true_eq,
      decide_eq_true_eq] at h
    rw [List.mem_append, List.mem_range'_1]
    obtain ⟨ha, hb | hrest⟩ := h
    · exact .inl (by omega)
    · rw [List.length_cons, List.length_cons] at he
      exact .inr (ih (by omega) hrest)
  | case2 turns hne =>
    rcases turns with _ | ⟨a, _ | ⟨b, turns⟩⟩
    · simp [within] at h
    · simp at he
    · exact absurd rfl (hne a b turns)

/-- The code points that a run pairs. -/
def CaseRun.points (r : CaseRun) : List Nat :=
  (List.range ((r.last - r.first) / r.step + 1)).map fun k => r.first + k * r.step

theorem CaseRun.mem_points {r : CaseRun} {n : Nat} (h : r.covers n = true) : n ∈ r.points := by
  simp only [covers, Bool.and_eq_true, decide_eq_true_eq, beq_iff_eq] at h
  obtain ⟨⟨hfirst, hlast⟩, hstep⟩ := h
  have hle : (n - r.first) / r.step ≤ (r.last - r.first) / r.step :=
    Nat.div_le_div_right (by omega)
  have hdiv := Nat.div_add_mod (n - r.first) r.step
  rw [hstep, Nat.mul_comm] at hdiv
  exact List.mem_map.2 ⟨(n - r.first) / r.step, List.mem_range.2 (by omega), by omega⟩

/-! ## Upper-case letters -/

/-- An upper-case letter is a letter. -/
theorem alphabetic_of_uppercase {c : Char} (h : isUppercase c = true) : isAlphabetic c = true := by
  have hswept : sweep true false alphabetic.turns 0 (spread uppercase.turns) = true := by
    decide +kernel
  exact within_of_sweep hswept (mem_spread (by decide +kernel) h)

/-- An upper-case letter is its own upper-case form. -/
theorem upperForm_of_uppercase {c : Char} (h : isUppercase c = true) : upperForm c = [c] := by
  have hsequences : sweep false false uppercase.turns 0 (upperSequences.map Prod.fst) = true := by
    decide +kernel
  have hruns : sweep false false uppercase.turns 0 (upperRuns.flatMap CaseRun.points) = true := by
    decide +kernel
  have hout {points : List Nat} (hs : sweep false false uppercase.turns 0 points = true) :
      c.toNat ∉ points := fun hm =>
    Bool.false_ne_true ((within_of_sweep hs hm).symm.trans h)
  have hlookup : upperSequences.lookup c.toNat = none := by
    rw [Option.eq_none_iff_forall_ne_some]
    intro form hform
    exact hout hsequences (List.mem_map.2 ⟨_, mem_of_lookup hform, rfl⟩)
  have hpartner : partner? upperRuns c.toNat = none := by
    rw [partner?, Option.map_eq_none_iff, List.find?_eq_none]
    intro r hr hcovers
    exact hout hruns (List.mem_flatMap.2 ⟨r, hr, CaseRun.mem_points hcovers⟩)
  rw [upperForm, mapped, hlookup, hpartner]
  rfl

end Groundwork.Text
