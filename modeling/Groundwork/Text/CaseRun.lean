/-!
# Runs of letters with a partner in the other case

In most alphabets the two cases of a letter lie at a fixed distance from each other, either in two
blocks or side by side. A run holds such letters: every `step`-th code point from `first` to `last`,
the first of them paired with `partner` and the others at the same distance.
-/

namespace Groundwork.Text

/-- Letters at regular places whose partners in the other case lie at one fixed distance. -/
structure CaseRun where
  /-- The first letter of the run. -/
  first : Nat
  /-- The last letter of the run. -/
  last : Nat
  /-- The distance between neighbouring letters of the run. -/
  step : Nat
  /-- The partner of the first letter. -/
  partner : Nat
  deriving DecidableEq

namespace CaseRun

/-- Whether the run pairs the code point `n`. -/
def covers (r : CaseRun) (n : Nat) : Bool :=
  decide (r.first ≤ n) && decide (n ≤ r.last) && (n - r.first) % r.step == 0

/-- The partner of a code point of the run. -/
def image (r : CaseRun) (n : Nat) : Nat := r.partner + (n - r.first)

end CaseRun

/-- The partner of `n` in the first run that covers it. -/
def partner? (runs : List CaseRun) (n : Nat) : Option Nat :=
  (runs.find? (·.covers n)).map (·.image n)

end Groundwork.Text
