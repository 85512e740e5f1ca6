/-!
# Cutting text at a separator

`pieces` cuts at every separator, `cutFirst` at the first one only, and `lines` cuts at line feeds
without counting an empty rest after the last one. Cutting loses nothing but the separators: joining
the pieces again gives back the text (`join_pieces`), and no piece holds a separator
(`not_mem_of_mem_pieces`).
-/

namespace Groundwork.Text

/-- The parts of `cs` between the occurrences of `sep`; always at least one. -/
def pieces (sep : Char) : List Char → List (List Char)
  | [] => [[]]
  | c :: cs =>
    if c = sep then [] :: pieces sep cs
    else
      match pieces sep cs with
      | [] => [[c]]
      | p :: ps => (c :: p) :: ps

/-- The parts of `s` between the occurrences of `sep`. -/
def split (sep : Char) (s : String) : List String := (pieces sep s.toList).map String.ofList

/-- The part before the first `sep` and, if there is one, the part after it. -/
def cutFirst (sep : Char) : List Char → List Char × Option (List Char)
  | [] => ([], none)
  | c :: cs =>
    if c = sep then ([], some cs)
    else
      let (before, after) := cutFirst sep cs
      (c :: before, after)

/-- The lines of a text. A line feed at the end closes the last line and opens no other. -/
def lines (cs : List Char) : List (List Char) :=
  let all := pieces '\n' cs
  if all.getLast? = some [] then all.dropLast else all

/-- Pieces joined by a separator. -/
def joinPieces (sep : Char) : List (List Char) → List Char
  | [] => []
  | [p] => p
  | p :: q :: ps => p ++ sep :: joinPieces sep (q :: ps)

theorem pieces_ne_nil (sep : Char) (cs : List Char) : pieces sep cs ≠ [] := by
  cases cs with
  | nil => simp [pieces]
  | cons c cs =>
    unfold pieces
    split
    · simp
    · split <;> simp

theorem not_mem_of_mem_pieces {sep : Char} {cs p : List Char} (h : p ∈ pieces sep cs) :
    sep ∉ p := by
  induction cs generalizing p with
  | nil => simp_all [pieces]
  | cons c cs ih =>
    unfold pieces at h
    split at h
    · rcases List.mem_cons.1 h with rfl | h
      · simp
      · exact ih h
    · next hc =>
      split at h
      · rcases List.mem_singleton.1 h with rfl
        simp [Ne.symm hc]
      · next q qs hq =>
        rcases List.mem_cons.1 h with rfl | h
        · simp [Ne.symm hc, ih (hq ▸ List.mem_cons_self)]
        · exact ih (hq ▸ List.mem_cons_of_mem _ h)

theorem join_pieces (sep : Char) (cs : List Char) : joinPieces sep (pieces sep cs) = cs := by
  induction cs with
  | nil => rfl
  | cons c cs ih =>
    unfold pieces
    split
    · next hc =>
      cases hp : pieces sep cs with
      | nil => exact absurd hp (pieces_ne_nil sep cs)
      | cons p ps => rw [hp] at ih; simp [joinPieces, ih, hc]
    · split
      · next hp => exact absurd hp (pieces_ne_nil sep cs)
      · next p ps hp =>
        rw [hp] at ih
        cases ps with
        | nil => simp_all [joinPieces]
        | cons q qs => simpa [joinPieces] using ih

end Groundwork.Text
