import Groundwork.Text.Character

/-!
# Endings of words

A rule for plurals looks at how a text ends: a *stem* given slot by slot, then an *ending* that is
taken away. What stays is the stem together with the run of word characters before it; anything
before that run is not part of the word and is dropped.
-/

namespace Groundwork.Inflection

open Text

/-- One place of a stem: a given letter, one of some letters, or anything but some letters. -/
inductive Slot
  | letter (c : Char)
  | among (cs : List Char)
  | outside (cs : List Char)
  deriving DecidableEq

/-- Whether a character fits into a slot. -/
def Slot.admits : Slot → Char → Bool
  | .letter l, c => l == c
  | .among cs, c => cs.contains c
  | .outside cs, c => !cs.contains c

/-- The places of a stem, from left to right. -/
abbrev Stem := List Slot

/-- The stem that is spelled `s`. -/
def Stem.spelled (s : String) : Stem := s.toList.map .letter

/-- Whether the slots `stem` (last one first) fit the beginning of `back` (last character first). -/
def fits : Stem → List Char → Bool
  | [], _ => true
  | _ :: _, [] => false
  | slot :: stem, c :: back => slot.admits c && fits stem back

/-- A way to form a plural: the stems and endings it applies to, and what is put for the ending. -/
structure EndingRule where
  /-- The stems, any of which may stand before the ending. -/
  stems : List Stem
  /-- The endings, any of which may stand at the end. -/
  endings : List String
  /-- What is put in place of the ending. -/
  plural : String

/-- What stays of a text, last character first, when it ends in `stem` followed by `ending`. -/
def keptBefore (back : List Char) (stem : Stem) (ending : String) : Option (List Char) :=
  let tail := ending.toList.reverse
  if tail.isPrefixOf back then
    let rest := back.drop tail.length
    if fits stem.reverse rest then
      let before := rest.drop stem.length
      some (rest.take stem.length ++ before.takeWhile isWordCharacter)
    else none
  else none

/-- The plural that a rule forms from a text, if it applies. -/
def EndingRule.form? (rule : EndingRule) (word : List Char) : Option (List Char) :=
  let back := word.reverse
  (rule.endings.findSome? fun ending =>
    rule.stems.findSome? fun stem => keptBefore back stem ending).map
      fun kept => kept.reverse ++ rule.plural.toList

end Groundwork.Inflection
