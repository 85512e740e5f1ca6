import Groundwork.Text.Trim
import Mathlib.Data.List.DropRight

/-!
# Laws of trimming

Trimming leaves a part of the text (`mem_of_mem_trimChars`), and all of it where there are no blanks
(`trimChars_of_not_blank`). What is left has no blank ends, so trimming it again changes nothing
(`trim_trim`). Blanks at the end of a text make no difference to what is left.
-/

namespace Groundwork.Text

variable {cs : List Char}

theorem trimEndChars_eq_rdropWhile (cs : List Char) : trimEndChars cs = cs.rdropWhile isBlank := rfl

theorem mem_of_mem_trimChars {c : Char} (h : c ∈ trimChars cs) : c ∈ cs := by
  rw [trimChars, trimEndChars_eq_rdropWhile] at h
  have hdropped := (List.rdropWhile_prefix isBlank _).subset h
  exact (List.dropWhile_suffix isBlank).subset hdropped

/-- Nothing is trimmed off a text without blanks. -/
theorem trimChars_of_not_blank (h : ∀ c ∈ cs, isBlank c = false) : trimChars cs = cs := by
  have hkept {ds : List Char} (hd : ∀ d ∈ ds, isBlank d = false) : ds.dropWhile isBlank = ds := by
    cases ds with
    | nil => rfl
    | cons d ds => rw [List.dropWhile_cons_of_neg (by simp [hd d])]
  rw [trimChars, hkept h, trimEndChars, hkept (by simpa using h), List.reverse_reverse]

/-- What is left does not begin with a blank. -/
theorem dropWhile_trimChars (cs : List Char) :
    (trimChars cs).dropWhile isBlank = trimChars cs := by
  rw [trimChars, trimEndChars_eq_rdropWhile]
  rcases hd : cs.dropWhile isBlank with _ | ⟨d, ds⟩
  · rfl
  · have hblank : ¬ isBlank d = true := by
      have hhead := List.head?_dropWhile_not isBlank cs
      rw [hd, List.head?_cons] at hhead
      simpa using hhead
    rcases hr : (d :: ds).rdropWhile isBlank with _ | ⟨r, rs⟩
    · rfl
    · obtain ⟨rfl, -⟩ := List.cons_prefix_cons.1 (hr ▸ List.rdropWhile_prefix isBlank (d :: ds))
      exact List.dropWhile_cons_of_neg hblank

theorem trimChars_trimChars (cs : List Char) : trimChars (trimChars cs) = trimChars cs := by
  rw [trimChars, dropWhile_trimChars, trimChars, trimEndChars_eq_rdropWhile,
    trimEndChars_eq_rdropWhile, List.rdropWhile_idempotent]

theorem trim_trim (s : String) : trim (trim s) = trim s := by
  rw [trim, toList_trim, trimChars_trimChars, ← trim]

/-! ## Blanks at the end -/

section

variable {blanks ds : List Char}

theorem trimEndChars_append_blanks (h : ∀ c ∈ blanks, isBlank c = true) (cs : List Char) :
    trimEndChars (cs ++ blanks) = trimEndChars cs := by
  rw [trimEndChars, List.reverse_append,
    List.dropWhile_append_of_pos fun c hc => h c (List.mem_reverse.1 hc), ← trimEndChars]

/-- Trimming the end of a text leaves `cs`, which has no blank end, where the text is `cs` and
blanks. -/
theorem trimEndChars_eq_iff (h : trimEndChars cs = cs) :
    trimEndChars ds = cs ↔ ∃ blanks : List Char, (∀ c ∈ blanks, isBlank c = true) ∧
      ds = cs ++ blanks := by
  constructor
  · rintro rfl
    exact ⟨ds.rtakeWhile isBlank, fun c hc => List.mem_rtakeWhile_imp hc,
      List.rdropWhile_append_rtakeWhile.symm⟩
  · rintro ⟨blanks, hblanks, rfl⟩
    rw [trimEndChars_append_blanks hblanks, h]

theorem trimChars_append_blanks (h : ∀ c ∈ blanks, isBlank c = true) (cs : List Char) :
    trimChars (cs ++ blanks) = trimChars cs := by
  rw [trimChars, List.dropWhile_append, trimChars]
  split
  · next hempty =>
    rw [List.isEmpty_iff.1 hempty, List.dropWhile_eq_nil_iff.2 h]
  · exact trimEndChars_append_blanks h _

theorem trimChars_trimEndChars (cs : List Char) : trimChars (trimEndChars cs) = trimChars cs := by
  have hsplit : cs.rdropWhile isBlank ++ cs.rtakeWhile isBlank = cs :=
    List.rdropWhile_append_rtakeWhile
  rw [trimEndChars_eq_rdropWhile]
  nth_rewrite 2 [← hsplit]
  rw [trimChars_append_blanks fun c hc => List.mem_rtakeWhile_imp hc]

/-- A character that is no blank keeps what stands before it. -/
theorem trimEndChars_append_cons {c : Char} (hc : isBlank c = false) (cs ds : List Char) :
    trimEndChars (cs ++ c :: ds) = cs ++ c :: trimEndChars ds := by
  have hkept : (c :: cs.reverse).dropWhile isBlank = c :: cs.reverse :=
    List.dropWhile_cons_of_neg (by simp [hc])
  rw [trimEndChars, List.reverse_append, List.reverse_cons, List.append_assoc,
    List.singleton_append, List.dropWhile_append, hkept, trimEndChars]
  split
  · next hempty =>
    rw [List.isEmpty_iff.1 hempty]
    simp
  · simp

end

end Groundwork.Text
