import Groundwork.Entry.List
import Groundwork.Proofs.Text.Split
import Mathlib.Control.Monad.Basic
import Mathlib.Data.List.Forall2

/-!
# Parts of lists

A list is read part by part. It is accepted exactly if every part between its commas spells a
member, and the members are those that the parts spell, one by one (`Entry.parseParts_ok_iff`); it
is refused for the first part that is blank or spells none (`Entry.parseParts_error_iff`).
-/

namespace Groundwork

open Text

section Attempts

variable {ε α β : Type} {x : Except ε α} {f : α → Except ε β}

theorem bind_eq_ok {b : β} : (x >>= f) = .ok b ↔ ∃ a, x = .ok a ∧ f a = .ok b := by
  cases x <;> simp [bind, Except.bind]

theorem bind_eq_error {e : ε} :
    (x >>= f) = .error e ↔ x = .error e ∨ ∃ a, x = .ok a ∧ f a = .error e := by
  cases x <;> simp [bind, Except.bind]

theorem throw_ne_ok {e : ε} {a : α} : (throw e : Except ε α) ≠ .ok a := nofun

end Attempts

namespace Entry

variable {α : Type} {parse : String → Except EntryError α}

/-! ## Parts -/

/-- A part of a list spells a member: it is an entry with blanks around it. -/
def Spells (parse : String → Except EntryError α) (part : String) (m : α) : Prop :=
  isBlankText part = false ∧ parse (trim part) = .ok m

/-- A part of a list, the one at a position, is refused. -/
inductive Refused (parse : String → Except EntryError α) (position : Nat) (part : String) :
    EntryError → Prop
  /-- It is blank. -/
  | blank (h : isBlankText part = true) : Refused parse position part (.emptyEntry position)
  /-- There is an entry, and it is refused. -/
  | entry {cause : EntryError} (h : isBlankText part = false)
    (he : parse (trim part) = .error cause) : Refused parse position part cause

variable {position : Nat} {part : String} {parts : List String} {m : α} {members : List α}
  {cause : EntryError}

theorem parseParts_blank (h : isBlankText part = true) :
    parseParts parse position (part :: parts) = .error (.emptyEntry position) := by
  rw [parseParts, if_pos h]
  rfl

theorem parseParts_refused (h : isBlankText part = false) (he : parse (trim part) = .error cause) :
    parseParts parse position (part :: parts) = .error cause := by
  rw [parseParts, h, he]
  rfl

theorem parseParts_spells (h : Spells parse part m) :
    parseParts parse position (part :: parts) =
      parseParts parse (position + 1) parts >>= fun members => pure (m :: members) := by
  rw [parseParts, h.1, h.2]
  rfl

theorem Refused.parseParts (h : Refused parse position part cause) :
    parseParts parse position (part :: parts) = .error cause := by
  cases h with
  | blank h => exact parseParts_blank h
  | entry h he => exact parseParts_refused h he

/-- A part spells a member or is refused. -/
theorem spells_or_refused (parse : String → Except EntryError α) (position : Nat)
    (part : String) : (∃ m, Spells parse part m) ∨ ∃ cause, Refused parse position part cause := by
  rcases hb : isBlankText part with _ | _
  · rcases he : parse (trim part) with cause | m
    · exact .inr ⟨cause, .entry hb he⟩
    · exact .inl ⟨m, hb, he⟩
  · exact .inr ⟨_, .blank hb⟩

theorem Spells.unique {m' : α} (h : Spells parse part m) (h' : Spells parse part m') : m = m' :=
  Except.ok.inj (h.2.symm.trans h'.2)

theorem Spells.not_refused (h : Spells parse part m) : ¬ Refused parse position part cause := by
  rintro (hb | ⟨-, he⟩)
  · rw [h.1] at hb
    cases hb
  · rw [h.2] at he
    cases he

/-- Parts are accepted exactly if each of them spells a member. -/
theorem parseParts_ok_iff :
    parseParts parse position parts = .ok members ↔
      List.Forall₂ (Spells parse) parts members := by
  induction parts generalizing position members with
  | nil => rw [parseParts, Except.ok.injEq, List.forall₂_nil_left_iff, eq_comm]
  | cons part parts ih =>
    rw [List.forall₂_cons_left_iff]
    obtain ⟨m, hm⟩ | ⟨cause, hc⟩ := spells_or_refused parse position part
    · rw [parseParts_spells hm]
      constructor
      · intro h
        obtain ⟨rest, hrest, h⟩ := bind_eq_ok.1 h
        exact ⟨m, rest, hm, ih.1 hrest, (Except.ok.inj h).symm⟩
      · rintro ⟨m', rest, hm', hrest, rfl⟩
        rw [ih.2 hrest, hm.unique hm']
        rfl
    · rw [hc.parseParts]
      constructor
      · intro h
        cases h
      · rintro ⟨m, -, hm, -⟩
        exact absurd hc hm.not_refused

/-- Parts are refused for the first of them that does not spell a member. -/
theorem parseParts_error_iff :
    parseParts parse position parts = .error cause ↔
      ∃ good bad rest, parts = good ++ bad :: rest ∧ (∀ part ∈ good, ∃ m, Spells parse part m) ∧
        Refused parse (position + good.length) bad cause := by
  constructor
  · intro h
    induction parts generalizing position with
    | nil => cases h
    | cons part parts ih =>
      obtain ⟨m, hm⟩ | ⟨cause', hc⟩ := spells_or_refused parse position part
      · rw [parseParts_spells hm] at h
        have hrest := (bind_eq_error.1 h).resolve_right nofun
        obtain ⟨good, bad, rest, rfl, hgood, hbad⟩ := ih hrest
        refine ⟨part :: good, bad, rest, rfl, List.forall_mem_cons.2 ⟨⟨m, hm⟩, hgood⟩, ?_⟩
        rwa [List.length_cons, ← Nat.add_assoc, Nat.add_right_comm]
      · rw [hc.parseParts] at h
        cases h
        exact ⟨[], part, parts, rfl, nofun, hc⟩
  · rintro ⟨good, bad, rest, rfl, hgood, hbad⟩
    induction good generalizing position with
    | nil => exact hbad.parseParts
    | cons part good ih =>
      rw [List.forall_mem_cons] at hgood
      obtain ⟨m, hm⟩ := hgood.1
      rw [List.length_cons, ← Nat.add_assoc, Nat.add_right_comm] at hbad
      rw [List.cons_append, parseParts_spells hm, ih hgood.2 hbad]
      rfl

/-- Parts that spell members may be read first, and the others from the next position on. -/
theorem parseParts_append {qs : List String} (h : List.Forall₂ (Spells parse) parts members) :
    parseParts parse position (parts ++ qs) =
      parseParts parse (position + parts.length) qs >>= fun later => pure (members ++ later) := by
  induction h generalizing position with
  | nil => exact (bind_pure _).symm
  | cons hm _ ih =>
    rw [List.cons_append, parseParts_spells hm, ih, List.length_cons, Nat.add_right_comm,
      ← Nat.add_assoc, bind_assoc]
    simp only [pure_bind, List.cons_append]

/-! ## Lists -/

section Lists

variable {a b : String} {xs ys : List α}

theorem not_mem_of_blank (h : isBlankText a = true) : ',' ∉ a.toList := fun hmem =>
  absurd (List.all_eq_true.1 h _ hmem) (by decide)

theorem parseList_of_not_blank (h : isBlankText a = false) :
    parseList parse (some a) = parseParts parse 1 (split ',' a) := by
  rw [parseList, h]
  rfl

theorem parseList_of_blank (h : isBlankText a = true) : parseList parse (some a) = .ok [] := by
  rw [parseList, if_pos h]

/-- A list is accepted if each of its parts spells a member. -/
theorem parseList_of_spells (h : List.Forall₂ (Spells parse) (split ',' a) xs) :
    parseList parse (some a) = .ok xs := by
  have ha : isBlankText a = false := by
    rw [Bool.eq_false_iff]
    intro hblank
    rw [split_of_not_mem (not_mem_of_blank hblank)] at h
    cases h with
    | cons hm =>
      rw [hm.1] at hblank
      cases hblank
  rw [parseList_of_not_blank ha, parseParts_ok_iff]
  exact h

theorem exists_of_mem_of_forall₂ (h : List.Forall₂ (Spells parse) parts members)
    (hm : m ∈ members) : ∃ part ∈ parts, Spells parse part m := by
  induction h with
  | nil => cases hm
  | cons hfirst _ ih =>
    rcases List.mem_cons.1 hm with rfl | hm
    · exact ⟨_, List.mem_cons_self, hfirst⟩
    · obtain ⟨part, hpart, hspells⟩ := ih hm
      exact ⟨part, List.mem_cons_of_mem _ hpart, hspells⟩

/-- A member of an accepted list is what an accepted entry spells. -/
theorem exists_of_mem_parseList {spec : Option String} (h : parseList parse spec = .ok members)
    (hm : m ∈ members) : ∃ entry, parse entry = .ok m := by
  cases spec with
  | none =>
    rw [parseList, Except.ok.injEq] at h
    simp [← h] at hm
  | some a =>
    rcases ha : isBlankText a with _ | _
    · rw [parseList_of_not_blank ha, parseParts_ok_iff] at h
      obtain ⟨part, -, hspells⟩ := exists_of_mem_of_forall₂ h hm
      exact ⟨trim part, hspells.2⟩
    · rw [parseList_of_blank ha, Except.ok.injEq] at h
      simp [← h] at hm

end Lists

end Entry

end Groundwork
