import Groundwork.Text.Replace
import Mathlib.Data.List.Infix

/-!
# Replacing piece by piece

A text is taken apart before every occurrence of the pattern in it can be replaced: what does not
hold the first character of the pattern is passed over (`replaceAll_append`), and the pattern itself
is replaced (`replaceAll_pattern_append`), whatever follows. What the pattern does not occur in
stays as it is (`replaceAll_of_not_infix`).
-/

namespace Groundwork.Text

variable {pattern new cs : List Char} {c : Char}

/-- A text that the pattern does not occur in is left as it is. -/
theorem replaceAll_of_not_infix (h : ¬pattern <:+: cs) : replaceAll pattern new cs = cs := by
  induction cs with
  | nil => rw [replaceAll]
  | cons c cs ih =>
    have hprefix : ¬pattern.isPrefixOf (c :: cs) = true := fun hp =>
      h (List.isPrefixOf_iff_prefix.1 hp).isInfix
    have htail : ¬pattern <:+: cs := fun hi => h (hi.trans (List.suffix_cons c cs).isInfix)
    rw [replaceAll, if_neg (fun hp => hprefix hp.2), ih htail]

/-- What does not hold the first character of the pattern is passed over. -/
theorem replaceAll_append (hc : c ∉ cs) (rest : List Char) :
    replaceAll (c :: pattern) new (cs ++ rest) = cs ++ replaceAll (c :: pattern) new rest := by
  induction cs with
  | nil => rfl
  | cons d cs ih =>
    obtain ⟨hd, hcs⟩ := not_or.1 (mt List.mem_cons.2 hc)
    have hprefix : ¬(c :: pattern).isPrefixOf (d :: (cs ++ rest)) = true := by
      simp [List.isPrefixOf, hd]
    rw [List.cons_append, replaceAll, if_neg (fun hp => hprefix hp.2), ih hcs, List.cons_append]

theorem replaceAll_pattern_append (rest : List Char) :
    replaceAll (c :: pattern) new (c :: pattern ++ rest) =
      new ++ replaceAll (c :: pattern) new rest := by
  have hprefix : (c :: pattern).isPrefixOf (c :: pattern ++ rest) = true :=
    List.isPrefixOf_iff_prefix.2 (List.prefix_append _ _)
  rw [List.cons_append, replaceAll, if_pos ⟨List.cons_ne_nil _ _, hprefix⟩, List.length_cons,
    Nat.add_sub_cancel, List.drop_left]

theorem replace_of_not_infix {pattern new s : String} (h : ¬pattern.toList <:+: s.toList) :
    replace pattern new s = s := by
  rw [replace, replaceAll_of_not_infix h, String.ofList_toList]

end Groundwork.Text
