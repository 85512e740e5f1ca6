/-!
# Sets of code points

A Unicode property is a set of code points, and here a set is the increasing list of its *turns*:
the code points at which membership changes, starting outside. A code point belongs to the set when
the number of turns not after it is odd. Two facts carry every use of a table: nothing before the
first turn belongs (`within_of_lt`), and from the first turn on membership is the opposite of
membership in the rest (`within_of_le`).
-/

namespace Groundwork.Text

/-- A set of code points, given by the increasing list of the points where membership changes. -/
structure CodePoints where
  /-- The points of change; the first one is the least member. -/
  turns : List Nat

/-- Whether `n` lies inside, given the turns still ahead and starting outside. -/
def within : List Nat → Nat → Bool
  | [], _ => false
  | t :: ts, n => if n < t then false else !within ts n

/-- Membership of a character. -/
def CodePoints.has (s : CodePoints) (c : Char) : Bool := within s.turns c.toNat

theorem within_of_lt {t n : Nat} (ts : List Nat) (h : n < t) : within (t :: ts) n = false := by
  simp [within, h]

theorem within_of_le {t n : Nat} (ts : List Nat) (h : t ≤ n) :
    within (t :: ts) n = !within ts n := by
  simp [within, Nat.not_lt.2 h]

end Groundwork.Text
