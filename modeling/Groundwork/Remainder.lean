/-!
# What is left to read

A reader takes something from the beginning of a list and hands on what is left. What it hands on
is no longer than the list, which is why readers that call one another come to an end; so the length
goes into the type. A `Remainder` may be the whole list, a `Rest` is shorter.

`span` reads the longest part whose elements satisfy a test, and loses nothing (`append_span`).
-/

namespace Groundwork

variable {α : Type}

/-- What is left of `xs` once something or nothing has been read from its beginning. -/
abbrev Remainder (xs : List α) := { r : List α // r.length ≤ xs.length }

/-- What is left of `xs` once something has been read from its beginning. -/
abbrev Rest (xs : List α) := { r : List α // r.length < xs.length }

namespace Remainder

/-- The whole of a list. -/
def all (xs : List α) : Remainder xs := ⟨xs, Nat.le_refl _⟩

/-- What is left of `xs`, as what is left of a list with an element more. -/
def past {x : α} {xs : List α} (r : Remainder xs) : Remainder (x :: xs) :=
  ⟨r.val, Nat.le_succ_of_le r.property⟩

/-- What is left of a remainder, as what is left of the list itself. -/
def within {xs : List α} (r : Remainder xs) (s : Remainder r.val) : Remainder xs :=
  ⟨s.val, Nat.le_trans s.property r.property⟩

/-- The longest part, from the beginning, whose elements satisfy `p`, and what is left. -/
def span (p : α → Bool) (xs : List α) : List α × Remainder xs :=
  (xs.takeWhile p, ⟨xs.dropWhile p, (List.dropWhile_sublist p).length_le⟩)

@[simp] theorem val_all (xs : List α) : (all xs).val = xs := rfl

@[simp] theorem val_past {x : α} {xs : List α} (r : Remainder xs) :
    (r.past : Remainder (x :: xs)).val = r.val := rfl

@[simp] theorem val_within {xs : List α} (r : Remainder xs) (s : Remainder r.val) :
    (r.within s).val = s.val := rfl

theorem append_span (p : α → Bool) (xs : List α) :
    (span p xs).1 ++ (span p xs).2.val = xs :=
  List.takeWhile_append_dropWhile

end Remainder

end Groundwork
