import Groundwork.Files.Editing
import Groundwork.Proofs.Files.Descent
import Groundwork.Proofs.Files.Keeping

/-!
# Rooted trees

A tree is rooted if each of its entries lies in a directory (`FileTree.Rooted`). The empty tree is,
and every operation leaves a rooted tree rooted, those of commands as well as what a user does by
hand. In a rooted tree a walk never leaves the directories (`Rooted.directory_of_walk`), and there
is nothing in a place that is not a directory (`Rooted.entry?_below`).
-/

namespace Groundwork.FileTree

variable {t t' : FileTree} {purpose : Purpose} {links : Nat} {here : Location} {p : Path}
  {bytes : List UInt8}

/-- Every entry lies in a directory. -/
def Rooted (t : FileTree) : Prop :=
  ∀ name above entry, t.entry? (name :: above) = some entry → t.entry? above = some .directory

theorem rooted_empty : empty.Rooted := by
  intro name above entry h
  simp [FileTree.entry?, empty] at h

/-- A tree is rooted if each pair of its list is in a directory. -/
theorem rooted_of_entries (h : ∀ pair ∈ t.entries, t.entry? pair.1.tail = some .directory) :
    t.Rooted := by
  intro name above entry he
  obtain ⟨before, after, hsplit, -⟩ := List.lookup_eq_some_iff.1 he
  exact h (name :: above, entry) (by simp [hsplit])

namespace Rooted

/-- There is nothing in a place where there is no directory. -/
theorem entry?_below (h : t.Rooted) {name : String} {above : Location}
    (ha : t.entry? above ≠ some .directory) : t.entry? (name :: above) = none :=
  Option.eq_none_iff_forall_ne_some.2 fun entry he => ha (h name above entry he)

theorem directory_tail (h : t.Rooted) (hh : t.entry? here = some .directory) :
    t.entry? here.tail = some .directory := by
  cases here with
  | nil => rfl
  | cons name above => exact h name above _ hh

/-! ## Walks -/

/-- A walk from a directory ends in a directory. -/
theorem directory_of_walk (h : t.Rooted) (hh : t.entry? here = some .directory)
    {steps : List String} {slash : Bool} {place : Place}
    (hw : t.walk purpose links here steps slash = .ok place) :
    t.entry? place.location.tail = some .directory := by
  fun_induction walk t purpose links here steps slash
  case case1 =>
    cases hw
    exact h.directory_tail hh
  case case2 ih => exact ih hh hw
  case case3 ih => exact ih (h.directory_tail hh) hw
  case case11 he hend ih => exact ih he hw
  case case14 target he hend hl ih =>
    refine ih ?_ hw
    split
    · rfl
    · exact hh
  case case6 | case8 | case10 | case12 =>
    cases hw
    exact hh
  all_goals simp at hw

theorem directory_of_resolve (h : t.Rooted) {place : Place} (hr : t.resolve purpose p = .ok place) :
    t.entry? place.location.tail = some .directory :=
  h.directory_of_walk rfl (resolve_eq_ok_iff.1 hr).2.2.2

/-! ## Operations -/

/-- A tree stays rooted when something is put in a directory and not in the place of one. -/
theorem put (h : t.Rooted) {location : Location} (ha : t.entry? location.tail = some .directory)
    (hl : t.entry? location ≠ some .directory) (entry : Entry) : (t.put location entry).Rooted := by
  intro name above e he
  by_cases hn : name :: above = location
  · subst hn
    rwa [entry?_put_of_ne fun he => List.cons_ne_self name above he.symm]
  · rw [entry?_put_of_ne hn] at he
    have hd := h name above e he
    have ho : above ≠ location := by
      rintro rfl
      exact hl hd
    rwa [entry?_put_of_ne ho]

theorem makeDirectory (h : t.Rooted) (hm : t.makeDirectory p = .ok t') : t'.Rooted := by
  obtain ⟨place, hr, he, rfl⟩ := makeDirectory_cases hm
  exact h.put (h.directory_of_resolve hr) (by simp [he]) _

theorem create (h : t.Rooted) (hc : t.create p bytes = .ok t') : t'.Rooted := by
  obtain ⟨place, hr, he, rfl⟩ := create_cases hc
  exact h.put (h.directory_of_resolve hr) (by simp [he]) _

theorem append (h : t.Rooted) (ha : t.append p bytes = .ok t') : t'.Rooted := by
  obtain ⟨place, hr, ⟨he, rfl⟩ | ⟨old, he, rfl⟩⟩ := append_cases ha
  · exact h.put (h.directory_of_resolve hr) (by simp [he]) _
  · exact h.put (h.directory_of_resolve hr) (by simp [he]) _

theorem overwrite (h : t.Rooted) (ho : t.overwrite p bytes = .ok t') : t'.Rooted := by
  rcases hr : t.resolve .look p with e | place
  · simp [FileTree.overwrite, hr, bind, Except.bind] at ho
  · have he := entry_of_resolve hr
    simp only [FileTree.overwrite, hr, bind, Except.bind] at ho
    split at ho
    · simp [throw, throwThe, MonadExceptOf.throw] at ho
    · next hn =>
      cases ho
      exact h.put (h.directory_of_resolve hr) (by rw [← he]; exact hn) _

theorem makeLink (h : t.Rooted) {target : Path} (hm : t.makeLink p target = .ok t') :
    t'.Rooted := by
  rcases hr : t.resolve .put p with e | place
  · simp [FileTree.makeLink, hr, bind, Except.bind] at hm
  · have he := entry_of_resolve hr
    simp only [FileTree.makeLink, hr, bind, Except.bind] at hm
    split at hm
    · next hn =>
      cases hm
      exact h.put (h.directory_of_resolve hr) (by simp [← he, hn]) _
    · simp [throw, throwThe, MonadExceptOf.throw] at hm

end Rooted

/-- What is left of a tree without the entries in some places. -/
theorem entry?_filter (q : Location → Bool) {location : Location} (hne : location ≠ []) :
    FileTree.entry? ⟨t.entries.filter fun (l, _) => q l⟩ location =
      if q location then t.entry? location else none := by
  cases location with
  | nil => exact absurd rfl hne
  | cons name above =>
    simp only [FileTree.entry?]
    induction t.entries with
    | nil => simp
    | cons hd tl ih =>
      obtain ⟨l, e⟩ := hd
      by_cases hl : name :: above = l
      · subst hl
        rw [List.filter_cons]
        cases hq : q (name :: above)
        · simpa [hq] using ih
        · simp
      · rw [List.lookup_cons, beq_eq_false_iff_ne.2 hl]
        cases hq : q l <;> simp [hq, List.lookup_cons, beq_eq_false_iff_ne.2 hl, ih]

theorem Rooted.remove (h : t.Rooted) (hm : t.remove p = .ok t') : t'.Rooted := by
  rcases hr : t.resolve .put p with e | place
  · simp [FileTree.remove, hr, bind, Except.bind] at hm
  · simp only [FileTree.remove, hr, bind, Except.bind] at hm
    split at hm
    · simp [throw, throwThe, MonadExceptOf.throw] at hm
    · cases hm
      intro name above entry he
      rw [entry?_filter (fun l => !place.location.isSuffixOf l) (by simp)] at he
      split at he
      · next hk =>
        have hd := h name above entry he
        cases above with
        | nil => rfl
        | cons name' above' =>
          have hs : ¬place.location <:+ name' :: above' := fun hs => by
            simp [List.isSuffixOf_iff_suffix.2 (hs.trans (List.suffix_cons name _))] at hk
          rw [entry?_filter (fun l => !place.location.isSuffixOf l) (by simp), hd]
          simp [hs]
      · simp at he

/-- The trees before and after a computation, where the one after is rooted if the one before is. -/
def StaysRooted (t t' : FileTree) : Prop := t.Rooted → t'.Rooted

instance : AllowsAdding StaysRooted where
  refl _ := id
  trans _ _ _ h h' := h' ∘ h
  of_makeDirectory hm h := h.makeDirectory hm
  of_create hc h := h.create hc

end Groundwork.FileTree
