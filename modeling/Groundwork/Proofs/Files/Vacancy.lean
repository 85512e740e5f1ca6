import Groundwork.Proofs.Files.Rooted
import Groundwork.Proofs.Path.LastName

/-!
# Free places

Where a path leads nothing may be, not even a link, while the directory that it would be in is
there. In a rooted tree the path then ends in a name, and the steps before the name lead to that
directory (`FileTree.Awaits`, `Rooted.exists_awaits`). What is known of the way there stays true
once the name has been given to a directory, and the path is a root from then on
(`Awaits.reaches`).
-/

namespace Groundwork.FileTree

open Text Groundwork.Path

variable {t t' : FileTree} {purpose : Purpose} {links : Nat} {here : Location} {p : Path}
  {name : String} {above : List Char}

/-! ## Walks to a directory and further -/

/-- A descent along some steps and then along others. -/
theorem descend_append (t : FileTree) (links : Nat) (here : Location) (steps more : List String) :
    t.descend links here (steps ++ more) =
      match t.descend links here steps with
      | .ok (links', here') => t.descend links' here' more
      | .error e => .error e := by
  fun_induction descend t links here steps
  case case1 => rfl
  case case2 ih => simpa [descend] using ih
  case case3 ih => simpa [descend] using ih
  case case7 hdot hup hlong he ih =>
    rw [List.cons_append, descend, if_neg hdot, if_neg hup, if_neg hlong, he]
    exact ih
  case case9 hdot hup hlong target he hl ih =>
    simp only [dite_eq_ite, List.append_assoc] at ih
    rw [List.cons_append, descend, if_neg hdot, if_neg hup, if_neg hlong, he]
    simp only [if_neg hl, ih]
  all_goals
    rw [List.cons_append, descend]
    simp_all

/-- The descent to a directory of the directory that one is in. -/
theorem descend_name (hn : IsName name) (hl : byteLength name ≤ nameLimit)
    (he : t.entry? (name :: here) = some .directory) :
    t.descend links here [name] = .ok (links, name :: here) := by
  simp only [descend, if_neg hn.ne_point, if_neg hn.ne_points, if_neg (Nat.not_lt.2 hl), he]

/-- The root directory is always there. -/
theorem reaches_root (t : FileTree) : t.Reaches ⟨"/"⟩ linkLimit [] where
  noNull := by decide
  descends := by
    have hsteps : (⟨"/"⟩ : Path).steps = [] := by decide
    rw [hsteps, descend]

/-- A directory in the root directory is reached by a path that consists of its name. -/
theorem reaches_of_steps (hsteps : p.steps = [name]) (hnull : '\x00' ∉ p.text.toList)
    (hn : IsName name) (hl : byteLength name ≤ nameLimit)
    (he : t.entry? [name] = some .directory) : t.Reaches p linkLimit [name] where
  noNull := hnull
  descends := by
    rw [hsteps]
    exact descend_name hn hl he

/-- A directory of the root is reached below the root. -/
theorem Reaches.join (h : t.Reaches p links here) (hn : IsName name)
    (hl : byteLength name ≤ nameLimit) (he : t.entry? (name :: here) = some .directory) :
    t.Reaches (p.join ⟨name⟩) links (name :: here) where
  noNull hm := by
    have ht : (p.join ⟨name⟩).text.toList = anchored p.text.toList ++ name.toList :=
      toList_join p hn.not_absolute
    rw [ht, List.mem_append] at hm
    exact hm.elim (fun hm => h.noNull (mem_of_mem_anchored (by decide) hm)) hn.noNull
  descends := by
    rw [steps_join p hn.not_absolute, hn.steps, descend_append, h.descends]
    exact descend_name hn hl he

/-- The path that is cut off after its last name leads where the path leads. -/
theorem Reaches.cut (h : t.Reaches p links here) (he : p.EndsIn name above) :
    t.Reaches he.cut links here where
  noNull hm := h.noNull (he.mem_of_mem_cut hm)
  descends := by
    rw [he.steps_cut]
    exact h.descends

/-- A descent in a rooted tree ends in a directory. -/
theorem Rooted.directory_of_descend (h : t.Rooted) (hh : t.entry? here = some .directory)
    {steps : List String} {links' : Nat} {here' : Location}
    (hd : t.descend links here steps = .ok (links', here')) :
    t.entry? here' = some .directory := by
  fun_induction descend t links here steps
  case case1 =>
    cases hd
    exact hh
  case case2 ih => exact ih hh hd
  case case3 ih => exact ih (h.directory_tail hh) hd
  case case7 he ih => exact ih he hd
  case case9 ih =>
    refine ih ?_ hd
    split
    · rfl
    · exact hh
  all_goals cases hd

/-- A walk along points stays where it is. -/
theorem walk_points {points : List String} (h : ∀ s ∈ points, s = ".") {slash : Bool} :
    t.walk purpose links here points slash = .ok ⟨here, t.entry? here, false⟩ := by
  induction points with
  | nil => rw [walk]
  | cons s points ih =>
    obtain ⟨rfl, hs⟩ := List.forall_mem_cons.1 h
    rw [walk, if_pos rfl, ih hs]

/-- The walk to a name in a directory that is looked at or in which an entry is to be put. -/
theorem walk_last (hn : IsName name) (hl : byteLength name ≤ nameLimit)
    (hp : purpose.namesFile = false)
    (hf : purpose.follows = true → ∀ target, t.entry? (name :: here) ≠ some (.link target))
    {slash : Bool} :
    t.walk purpose links here [name] slash =
      .ok ⟨name :: here, t.entry? (name :: here), slash⟩ := by
  rw [walk_cons hn.ne_point hn.ne_points (by simp [hp]) (by omega)]
  rcases he : t.entry? (name :: here) with _ | entry
  · rfl
  · cases entry with
    | file bytes => rfl
    | directory => rfl
    | link target =>
      have hn : purpose.follows = false := Bool.eq_false_iff.2 fun hf' => hf hf' target he
      simp [hn]

/-! ## Free places -/

/-- A path ends in `name`, and the steps before the name lead to `here`. -/
structure Awaits (t : FileTree) (p : Path) (name : String) (above : List Char) (links : Nat)
    (here : Location) : Prop where
  /-- The path ends in the name. -/
  ends : p.EndsIn name above
  /-- The path can be looked up. -/
  noNull : '\x00' ∉ p.text.toList
  /-- The path is not too long. -/
  short : byteLength p.text ≤ pathLimit
  /-- The name is not too long. -/
  shortName : byteLength name ≤ nameLimit
  /-- The steps before the name lead to the directory. -/
  descends : ∃ init, p.steps = init ++ [name] ∧ t.descend linkLimit [] init = .ok (links, here)

/-- Where a path leads to nothing, the last name of the path is free in a directory. -/
theorem Rooted.exists_awaits (hr : t.Rooted) {place : Location} {slash : Bool}
    (hfree : t.resolve .put p = .ok ⟨place, none, slash⟩) (hf : p.fileName? = some name) :
    ∃ above links here, place = name :: here ∧ t.Awaits p name above links here := by
  obtain ⟨hnull, -, hshort, hwalk⟩ := resolve_eq_ok_iff.1 hfree
  obtain ⟨above, hends⟩ | ⟨init, points, hne, hpoints, hsteps⟩ := exists_endsIn hf hnull
  · obtain ⟨init, hsteps⟩ := hends.steps_eq
    rw [hsteps, walk_append _ _ _ _ _ _ (List.cons_ne_nil _ _)] at hwalk
    split at hwalk
    · next links here hd =>
      have hlong : ¬nameLimit < byteLength name := fun hlong => by
        rw [walk, if_neg hends.isName.ne_point, if_neg hends.isName.ne_points] at hwalk
        simp [Purpose.namesFile, hlong] at hwalk
      rw [walk_last hends.isName (by omega) rfl (by simp [Purpose.follows])] at hwalk
      have hplace : place = name :: here :=
        (congrArg Place.location (Except.ok.inj hwalk)).symm
      exact ⟨above, links, here, hplace, hends, hnull, hshort, by omega, init, hsteps, hd⟩
    · cases hwalk
  · -- a point after the name asks for a directory, and nothing is there
    rw [hsteps, List.append_cons, walk_append _ _ _ _ _ _ hne] at hwalk
    split at hwalk
    · next links here hd =>
      rw [walk_points hpoints] at hwalk
      have hnone : t.entry? here = none := congrArg Place.entry (Except.ok.inj hwalk)
      cases (hr.directory_of_descend rfl hd).symm.trans hnone
    · cases hwalk

namespace Awaits

variable (h : t.Awaits p name above links here)

include h

theorem of_extends (he : t.Extends t') : t'.Awaits p name above links here := by
  have hg : t.Grows (fun _ _ => True) t' := he.grows
  obtain ⟨init, hsteps, hd⟩ := h.descends
  exact ⟨h.ends, h.noNull, h.short, h.shortName, init, hsteps, descend_of_grows hg hd⟩

/-- The path that is cut off after the name ends in the name, too. -/
theorem awaits_cut : t.Awaits h.ends.cut name above links here where
  ends := h.ends.endsIn_cut
  noNull hm := h.noNull (h.ends.mem_of_mem_cut hm)
  short := by
    obtain ⟨n, hn⟩ := h.ends.slashes
    have hshort := h.short
    simp only [byteLength, encode, encodeChars, h.ends.toList_cut, hn, List.flatMap_append,
      List.length_append] at hshort ⊢
    omega
  shortName := h.shortName
  descends := by
    rw [h.ends.steps_cut]
    exact h.descends

theorem text_ne_empty : p.text ≠ "" := by
  obtain ⟨n, hn⟩ := h.ends.slashes
  intro he
  rw [he] at hn
  exact h.ends.ne_nil (List.append_eq_nil_iff.1 hn.symm).1

theorem resolve_eq (hp : purpose.namesFile = false)
    (hf : purpose.follows = true → ∀ target, t.entry? (name :: here) ≠ some (.link target)) :
    t.resolve purpose p = .ok ⟨name :: here, t.entry? (name :: here), p.endsWithSlash⟩ := by
  obtain ⟨init, hsteps, hd⟩ := h.descends
  refine resolve_eq_ok_iff.2 ⟨h.noNull, h.text_ne_empty, h.short, ?_⟩
  rw [hsteps, walk_append _ _ _ _ _ _ (List.cons_ne_nil _ _), hd]
  exact walk_last h.ends.isName h.shortName hp hf

theorem has_of_free (he : t.entry? (name :: here) = none) : t.has p = false := by
  rw [has, find?, h.resolve_eq rfl (by simp [he]), he]
  rfl

theorem makeDirectory_of_free (he : t.entry? (name :: here) = none) :
    t.makeDirectory p = .ok (t.put (name :: here) .directory) := by
  rw [makeDirectory, h.resolve_eq rfl (by simp [Purpose.follows]), he]
  rfl

theorem makeDirectory_of_directory (he : t.entry? (name :: here) = some .directory) :
    t.makeDirectory p = .error .alreadyThere := by
  rw [makeDirectory, h.resolve_eq rfl (by simp [Purpose.follows]), he]
  rfl

theorem isDirectory_of_directory (he : t.entry? (name :: here) = some .directory) :
    t.isDirectory p = true := by
  rw [isDirectory, find?, h.resolve_eq rfl (by simp [he]), he]

theorem leadsTo (he : t.entry? (name :: here) = some .directory) :
    t.LeadsTo p (name :: here) := by
  refine ⟨.directory, p.endsWithSlash, ?_⟩
  rw [← he]
  exact h.resolve_eq rfl (by simp [he])

/-- The path is a root once a directory is there. -/
theorem reaches (he : t.entry? (name :: here) = some .directory) :
    t.Reaches p links (name :: here) := by
  obtain ⟨init, hsteps, hd⟩ := h.descends
  refine ⟨h.noNull, ?_⟩
  rw [hsteps, descend_append, hd]
  exact descend_name h.ends.isName h.shortName he

end Awaits

end Groundwork.FileTree
