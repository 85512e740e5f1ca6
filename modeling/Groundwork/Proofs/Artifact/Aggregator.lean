import Groundwork.Artifact.Aggregator
import Groundwork.Proofs.Text.Split
import Groundwork.Proofs.Text.Utf8
import Mathlib.Data.List.Nodup

/-!
# Registering lines one after the other

An aggregator that a line has been added to registers that line and what it registered before
(`registers_append_addition`), whatever its bytes were. So after some different lines have been
registered in order, it has gained, in this order, those that it did not hold at the beginning
(`foldl_registered`).
-/

namespace Groundwork.Aggregator

open Text

/-- What can be registered: a line that is not empty and has no blank at its end. -/
structure IsLine (line : String) : Prop where
  /-- It is not empty. -/
  ne_empty : line ≠ ""
  /-- It is one line. -/
  noBreak : '\n' ∉ line.toList
  /-- There is no blank at its end. -/
  trimmed : trimEndChars line.toList = line.toList

/-- The bytes of an aggregator after a line has been registered. -/
def registered (bytes : List UInt8) (line : String) : List UInt8 :=
  if registers bytes line then bytes else bytes ++ addition bytes line

/-- What has to come between the bytes of an aggregator and a new line. -/
def gap (bytes : List UInt8) : List UInt8 :=
  if bytes.getLast?.any (· != 10) then [10] else []

/-- Some lines, each closed by a line feed. -/
def block (lines : List String) : List UInt8 := lines.flatMap fun line => encode line ++ [10]

variable {bytes : List UInt8} {line line' : String} {lines : List String}

/-! ## One line -/

/-- What the bytes of an aggregator spell, cut at the line feeds. -/
def spelled (bytes : List UInt8) : List (List Char) := pieces '\n' (decodeLossy bytes)

theorem spelled_nil : spelled [] = [[]] := rfl

theorem spelled_append_newline (bytes more : List UInt8) :
    spelled (bytes ++ 10 :: more) = spelled bytes ++ spelled more := by
  rw [spelled, decodeLossy_append_newline, pieces_append_cons]
  rfl

theorem spelled_line (h : IsLine line) : spelled (encode line ++ [10]) = [line.toList, []] := by
  rw [spelled_append_newline, spelled, decodeLossy_encode, pieces_of_not_mem h.noBreak]
  rfl

theorem trimEndChars_nil_ne (h : line ≠ "") : trimEndChars [] ≠ line.toList := fun he =>
  h (String.toList_inj.1 he.symm)

/-- The empty line at the end does not matter when a line is looked for. -/
theorem registers_iff (h : line ≠ "") :
    registers bytes line = true ↔ ∃ l ∈ spelled bytes, trimEndChars l = line.toList := by
  simp only [registers, List.any_eq_true, beq_iff_eq, Text.lines, spelled]
  split
  · next hl =>
    obtain ⟨ps, hps⟩ := List.getLast?_eq_some_iff.1 hl
    simp [hps, trimEndChars_nil_ne h]
  · rfl

theorem addition_eq (bytes : List UInt8) (line : String) :
    addition bytes line = gap bytes ++ (encode line ++ [10]) := List.append_assoc ..

theorem gap_append_newline (bytes more : List UInt8) : gap (bytes ++ (more ++ [10])) = [] := by
  rw [gap, ← List.append_assoc, List.getLast?_concat]
  rfl

/-- What is spelled after a line has been added, up to empty lines. -/
theorem mem_spelled_append_addition (h : IsLine line) {l : List Char} (hl : l ≠ []) :
    l ∈ spelled (bytes ++ addition bytes line) ↔ l ∈ spelled bytes ∨ l = line.toList := by
  rw [addition_eq]
  rcases List.eq_nil_or_concat bytes with rfl | ⟨earlier, b, rfl⟩
  · have hg : gap [] = [] := rfl
    rw [hg, List.nil_append, List.nil_append, spelled_line h, spelled_nil]
    simp [hl]
  · rw [List.concat_eq_append]
    by_cases hb : b = 10
    · subst hb
      have hg : gap (earlier ++ [10]) = [] := gap_append_newline [] earlier
      rw [hg, List.nil_append, List.append_assoc, List.singleton_append,
        spelled_append_newline earlier, spelled_append_newline earlier, spelled_line h, spelled_nil]
      simp [hl]
    · have hg : gap (earlier ++ [b]) = [10] := by simp [gap, hb]
      rw [hg, List.singleton_append, spelled_append_newline, spelled_line h]
      simp [hl]

/-- An aggregator that a line has been added to registers that line and what it registered
before. -/
theorem registers_append_addition (h : IsLine line) (hne : line' ≠ "") :
    registers (bytes ++ addition bytes line) line' = true ↔
      registers bytes line' = true ∨ line = line' := by
  have hl {l : List Char} (ht : trimEndChars l = line'.toList) : l ≠ [] := by
    rintro rfl
    exact trimEndChars_nil_ne hne ht
  rw [registers_iff hne, registers_iff hne]
  constructor
  · rintro ⟨l, hm, ht⟩
    rcases (mem_spelled_append_addition h (hl ht)).1 hm with hm | rfl
    · exact .inl ⟨l, hm, ht⟩
    · exact .inr (String.toList_inj.1 (h.trimmed.symm.trans ht))
  · rintro (⟨l, hm, ht⟩ | rfl)
    · exact ⟨l, (mem_spelled_append_addition h (hl ht)).2 (.inl hm), ht⟩
    · exact ⟨_, (mem_spelled_append_addition h (hl h.trimmed)).2 (.inr rfl), h.trimmed⟩

/-- An aggregator in which a line has been registered registers that line and what it registered
before. -/
theorem registers_registered (h : IsLine line) (hne : line' ≠ "") :
    registers (registered bytes line) line' = true ↔
      registers bytes line' = true ∨ line = line' := by
  rcases hl : registers bytes line with _ | _
  · rw [registered, hl]
    exact registers_append_addition h hne
  · rw [registered, hl]
    refine (or_iff_left_of_imp ?_).symm
    rintro rfl
    exact hl

/-! ## Several lines -/

/-- The lines that an aggregator does not hold. -/
def missing (bytes : List UInt8) (lines : List String) : List String :=
  lines.filter fun line => !registers bytes line

/-- Registering different lines adds those that are missing, in order, after closing a line that the
aggregator left open. -/
theorem foldl_registered (h : ∀ line ∈ lines, IsLine line) (hn : lines.Nodup)
    (bytes : List UInt8) :
    lines.foldl registered bytes =
      bytes ++ (if missing bytes lines = [] then [] else gap bytes) ++
        block (missing bytes lines) := by
  induction lines generalizing bytes with
  | nil => simp [missing, block]
  | cons line lines ih =>
    obtain ⟨hl, hls⟩ := List.forall_mem_cons.1 h
    obtain ⟨hmem, hn⟩ := List.nodup_cons.1 hn
    rw [List.foldl_cons, ih hls hn, registered]
    rcases hr : registers bytes line with _ | _
    · -- the line is new, and it registers none of the later ones
      have hlater : missing (bytes ++ addition bytes line) lines = missing bytes lines := by
        refine List.filter_congr fun l hm => ?_
        have hi : registers (bytes ++ addition bytes line) l = true ↔
            registers bytes l = true ∨ line = l :=
          registers_append_addition hl (hls l hm).ne_empty
        have hne : line ≠ l := by
          rintro rfl
          exact hmem hm
        rw [Bool.eq_iff_iff.2 (hi.trans (or_iff_left hne))]
      have hcons : missing bytes (line :: lines) = line :: missing bytes lines := by
        simp [missing, hr]
      have hgap : gap (bytes ++ addition bytes line) = [] := by
        rw [addition_eq, ← List.append_assoc, gap_append_newline]
      rw [if_neg (by simp), hlater, hgap, ite_self, hcons, if_neg (List.cons_ne_nil _ _),
        addition_eq]
      simp [block]
    · have hcons : missing bytes (line :: lines) = missing bytes lines := by
        simp [missing, hr]
      rw [if_pos rfl, hcons]

end Groundwork.Aggregator
