import Groundwork.Entry.Error
import Groundwork.Text.Trim
import Groundwork.Text.Split

/-!
# Lists of entries

Fields and relationships are given as a list of entries separated by commas. A missing or blank list
has no entries; otherwise every entry must be there, and the first one that is blank or refused
decides the answer. Members with the same name are kept, and `repeated` tells which ones they are.
-/

namespace Groundwork.Entry

open Text

/-- The members that the parts of a list spell, the first part having number `position`. -/
def parseParts {α : Type} (parse : String → Except EntryError α) :
    (position : Nat) → List String → Except EntryError (List α)
  | _, [] => .ok []
  | position, part :: parts => do
    if isBlankText part then throw (.emptyEntry position)
    let member ← parse (trim part)
    let members ← parseParts parse (position + 1) parts
    pure (member :: members)

/-- The members that a list of entries spells. -/
def parseList {α : Type} (parse : String → Except EntryError α) :
    Option String → Except EntryError (List α)
  | none => .ok []
  | some spec => if isBlankText spec then .ok [] else parseParts parse 1 (split ',' spec)

/-- The names that occur earlier in a list, each as often as it does so again. -/
def repeated : List String → List String → List String
  | _, [] => []
  | seen, name :: names =>
    if seen.contains name then name :: repeated seen names else repeated (name :: seen) names

end Groundwork.Entry
