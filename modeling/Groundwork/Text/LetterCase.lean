import Groundwork.Text.UpperMapping
import Groundwork.Text.LowerMapping
import Groundwork.Text.Cased
import Groundwork.Text.CaseIgnorable

/-!
# Upper and lower case of text

The full case mappings: a letter may become several (`ß` becomes `SS`), and a capital sigma becomes
the final form `ς` where it ends a word. It ends a word when, passing over case-ignorable
characters, a cased letter comes before it and none comes after it.
-/

namespace Groundwork.Text

/-- The form of `c` under a mapping given by its sequences and its runs. -/
def mapped (sequences : List (Nat × List Nat)) (runs : List CaseRun) (c : Char) : List Char :=
  match sequences.lookup c.toNat with
  | some form => form.map Char.ofNat
  | none => [((partner? runs c.toNat).map Char.ofNat).getD c]

/-- The upper-case form of a character. -/
def upperForm (c : Char) : List Char := mapped upperSequences upperRuns c

/-- The lower-case form of a character outside of any context. -/
def lowerForm (c : Char) : List Char := mapped lowerSequences lowerRuns c

/-- Whether the first character that is not case-ignorable exists and is cased. -/
def meetsCased (cs : List Char) : Bool :=
  match cs.dropWhile caseIgnorable.has with
  | [] => false
  | c :: _ => cased.has c

/-- The lower-case form of the text `after`, which follows `before` (nearest character first). -/
def lowerAfter (before : List Char) : List Char → List Char
  | [] => []
  | c :: after =>
    let form :=
      if c = 'Σ' then if meetsCased before && !meetsCased after then ['ς'] else ['σ']
      else lowerForm c
    form ++ lowerAfter (c :: before) after

/-- The lower-case form of a text. -/
def lowerChars (cs : List Char) : List Char := lowerAfter [] cs

/-- The lower-case form of a text. -/
def lower (s : String) : String := String.ofList (lowerChars s.toList)

end Groundwork.Text
