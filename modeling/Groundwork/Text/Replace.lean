/-!
# Replacing every occurrence

`replaceAll` goes through a text from left to right and puts a replacement for each occurrence of a
pattern; what it has put is not read again. The empty pattern occurs nowhere.
-/

namespace Groundwork.Text

/-- `cs` with every occurrence of `pattern`, found from the left, replaced by `new`. -/
def replaceAll (pattern new : List Char) (cs : List Char) : List Char :=
  match cs with
  | [] => []
  | c :: rest =>
    if pattern ≠ [] ∧ pattern.isPrefixOf (c :: rest) then
      new ++ replaceAll pattern new (rest.drop (pattern.length - 1))
    else c :: replaceAll pattern new rest
termination_by cs.length
decreasing_by
  · simp only [List.length_drop, List.length_cons]; omega
  · simp

/-- `s` with every occurrence of `pattern`, found from the left, replaced by `new`. -/
def replace (pattern new s : String) : String :=
  String.ofList (replaceAll pattern.toList new.toList s.toList)

end Groundwork.Text
