import Groundwork.Proofs.Files.Growth
import Groundwork.Proofs.Path

/-!
# Paths below a directory

A walk along the steps of a root and then along more steps goes to the root first, whatever it is
for: `FileTree.descend` is that first part, and `walk_append` takes a walk apart after it. So once a
root is known to lead to a place (`FileTree.Reaches`), the paths below the root are resolved from
that place (`resolve_join`). It is known as soon as one file below the root has been found
(`reaches_of_isFile`), and it stays true while the tree grows (`Reaches.of_grows`).
-/

namespace Groundwork.FileTree

open Text Groundwork.Path

variable {t t' : FileTree} {purpose : Purpose} {links : Nat} {here : Location} {root : Path}

/-! ## Descending -/

/-- The directory that `steps` lead to from `here`, with the number of links that may still be
followed there. -/
def descend (t : FileTree) (links : Nat) (here : Location) (steps : List String) :
    Except FileError (Nat × Location) :=
  match steps with
  | [] => .ok (links, here)
  | step :: steps =>
    if step = "." then descend t links here steps
    else if step = ".." then descend t links here.tail steps
    else if nameLimit < byteLength step then .error .nameTooLong
    else
      match t.entry? (step :: here) with
      | none => .error .notFound
      | some (.file _) => .error .notADirectory
      | some .directory => descend t links (step :: here) steps
      | some (.link target) =>
        if links = 0 then .error .tooManyLinks
        else
          descend t (links - 1) (if target.isAbsolute then [] else here) (target.steps ++ steps)
termination_by (links, steps.length)

/-- A walk descends along all steps but the last ones. -/
theorem walk_append (t : FileTree) (purpose : Purpose) (links : Nat) (here : Location)
    (steps : List String) {more : List String} (slash : Bool) (hm : more ≠ []) :
    t.walk purpose links here (steps ++ more) slash =
      match t.descend links here steps with
      | .ok (links', here') => t.walk purpose links' here' more slash
      | .error e => .error e := by
  have hend (steps : List String) : (steps ++ more).isEmpty = false := by simp [hm]
  fun_induction descend t links here steps
  case case1 => rfl
  case case2 ih => simpa [walk] using ih
  case case3 ih => simpa [walk] using ih
  case case4 hdot hup hlong =>
    rw [List.cons_append, walk, if_neg hdot, if_neg hup, hend]
    simp [hlong]
  case case9 hdot hup hlong target he hl ih =>
    simp only [dite_eq_ite, List.append_assoc] at ih
    rw [List.cons_append, walk_cons hdot hup (by simp [hend]) hlong, he]
    simp only [hend, hl, Bool.false_and, Bool.or_false, Bool.false_eq_true, if_false, ih]
  all_goals
    rw [List.cons_append, walk_cons (by assumption) (by assumption) (by simp [hend])
      (by assumption)]
    simp_all

theorem descend_of_grows {allowed : Location → List UInt8 → Prop} (hg : t.Grows allowed t')
    {steps : List String} {place : Nat × Location}
    (h : t.descend links here steps = .ok place) : t'.descend links here steps = .ok place := by
  fun_induction descend t links here steps
  case case1 => simpa [descend] using h
  case case2 ih => simpa [descend] using ih h
  case case3 ih => simpa [descend] using ih h
  case case7 hdot hup hlong hd ih =>
    rw [descend, if_neg hdot, if_neg hup, if_neg hlong, hg.entry?_directory hd]
    exact ih h
  case case9 hdot hup hlong target hd hl ih =>
    rw [descend, if_neg hdot, if_neg hup, if_neg hlong, hg.entry?_link hd]
    simp only [if_neg hl]
    simp only [dite_eq_ite] at ih
    exact ih h
  all_goals simp at h

/-! ## Roots -/

/-- The directory `root` is at `here`, and `links` more links may be followed after it. -/
structure Reaches (t : FileTree) (root : Path) (links : Nat) (here : Location) : Prop where
  /-- The path of the root can be looked up. -/
  noNull : '\x00' ∉ root.text.toList
  /-- The steps of the root lead there. -/
  descends : t.descend linkLimit [] root.steps = .ok (links, here)

theorem Reaches.of_grows {allowed : Location → List UInt8 → Prop} (h : t.Reaches root links here)
    (hg : t.Grows allowed t') : t'.Reaches root links here :=
  ⟨h.noNull, descend_of_grows hg h.descends⟩

theorem Reaches.of_extends (h : t.Reaches root links here) (he : t.Extends t') :
    t'.Reaches root links here :=
  have hg : t.Grows (fun _ _ => True) t' := he.grows
  h.of_grows hg

/-- Below a short root, a short path is not too long. -/
theorem short_join {rest : Path} (hroot : (encodeChars (anchored root.text.toList)).length ≤ 100)
    (ha : isAbsoluteChars rest.text.toList = false) (hl : byteLength rest.text ≤ 100) :
    byteLength (root.join rest).text ≤ pathLimit := by
  rw [byteLength_join root ha, pathLimit]
  omega

/-- A path below a root is resolved from the place of the root. -/
theorem resolve_join (h : t.Reaches root links here) (purpose : Purpose) {rest : Path}
    (ha : isAbsoluteChars rest.text.toList = false) (hs : rest.steps ≠ [])
    (hn : '\x00' ∉ rest.text.toList) :
    t.resolve purpose (root.join rest) =
      if pathLimit < byteLength (root.join rest).text then .error .nameTooLong
      else t.walk purpose links here rest.steps rest.endsWithSlash := by
  have hne : rest.text.toList ≠ [] := by
    intro he
    simp [Path.steps, he, pieces] at hs
  have ht := toList_join root ha
  have hnull : '\x00' ∉ (root.join rest).text.toList := by
    rw [ht, List.mem_append, not_or]
    exact ⟨mt (mem_of_mem_anchored (by decide)) h.noNull, hn⟩
  have htext : (root.join rest).text ≠ "" := by
    intro he
    rw [he] at ht
    simp [hne] at ht
  rw [resolve, steps_join root ha, endsWithSlash_join root ha hne, walk_append _ _ _ _ _ _ hs,
    h.descends]
  simp [hnull, htext]

/-- A root below which a file is found leads to a place. -/
theorem reaches_of_isFile {rest : Path} (ha : isAbsoluteChars rest.text.toList = false)
    (hs : rest.steps ≠ []) (h : t.isFile (root.join rest) = true) :
    ∃ links here, t.Reaches root links here := by
  rcases hr : t.resolve .look (root.join rest) with e | place
  · simp [isFile, find?, hr] at h
  · obtain ⟨hnull, -, -, hw⟩ := resolve_eq_ok_iff.1 hr
    rw [steps_join root ha, walk_append _ _ _ _ _ _ hs] at hw
    rcases hd : t.descend linkLimit [] root.steps with e | ⟨links, here⟩
    · simp [hd] at hw
    · refine ⟨links, here, fun hm => hnull ?_, hd⟩
      rw [toList_join root ha]
      exact List.mem_append_left _ (mem_anchored hm)

/-- A walk to look that ends in a directory descends to it. -/
theorem descend_of_walk {steps : List String} {slash slash' : Bool} {place : Location}
    (h : t.walk .look links here steps slash = .ok ⟨place, some .directory, slash'⟩) :
    ∃ links', t.descend links here steps = .ok (links', place) := by
  fun_induction walk t .look links here steps slash
  case case1 =>
    simp only [Except.ok.injEq, Place.mk.injEq] at h
    exact ⟨_, by rw [descend, h.1]⟩
  case case2 ih => simpa [descend] using ih h
  case case3 ih => simpa [descend] using ih h
  case case10 hdot hup _ hlong he hend =>
    -- the last step is the directory itself
    cases h
    obtain rfl := List.isEmpty_iff.1 hend
    exact ⟨_, by rw [descend, if_neg hdot, if_neg hup, if_neg hlong, he, descend]⟩
  case case11 hdot hup _ hlong he hend ih =>
    rw [descend, if_neg hdot, if_neg hup, if_neg hlong, he]
    exact ih h
  case case14 hdot hup _ hlong target he hend hl ih =>
    rw [descend, if_neg hdot, if_neg hup, if_neg hlong, he]
    simp only [if_neg hl]
    exact ih h
  all_goals simp at h

/-- A path that leads to a directory reaches it. -/
theorem reaches_of_resolve {slash : Bool} {place : Location}
    (h : t.resolve .look root = .ok ⟨place, some .directory, slash⟩) :
    ∃ links, t.Reaches root links place := by
  obtain ⟨hnull, -, -, hw⟩ := resolve_eq_ok_iff.1 h
  obtain ⟨links, hd⟩ := descend_of_walk hw
  exact ⟨links, hnull, hd⟩

theorem resolve_of_isDirectory (h : t.isDirectory root = true) :
    ∃ place, t.resolve .look root = .ok place ∧ t.entry? place.location = some .directory := by
  rw [isDirectory, find?] at h
  rcases hres : t.resolve .look root with e | place
  · simp [hres] at h
  · refine ⟨place, rfl, ?_⟩
    rw [← entry_of_resolve hres]
    simp only [hres] at h
    split at h
    · next hfound =>
      split at hfound
      · cases hfound
      · next heq =>
        obtain rfl := Except.ok.inj heq
        exact hfound
      · cases hfound
    · cases h

theorem reaches_of_isDirectory (h : t.isDirectory root = true) :
    ∃ links here, t.Reaches root links here := by
  obtain ⟨⟨here, entry, slash⟩, hres, he⟩ := resolve_of_isDirectory h
  obtain rfl : entry = some .directory := (entry_of_resolve hres).trans he
  obtain ⟨links, hr⟩ := reaches_of_resolve hres
  exact ⟨links, here, hr⟩

/-! ## Names in a directory -/

variable {name directory : String}

/-- The walk to a name in a directory, where a link by this name is not followed. -/
theorem walk_name (hn : IsName name) (hl : byteLength name ≤ nameLimit)
    (hf : purpose.follows = true → ∀ target, t.entry? (name :: here) ≠ some (.link target)) :
    t.walk purpose links here [name] false =
      .ok ⟨name :: here, t.entry? (name :: here), false⟩ := by
  rw [walk_cons hn.ne_point hn.ne_points (by simp) (by omega)]
  rcases he : t.entry? (name :: here) with _ | entry
  · rfl
  · cases entry with
    | file bytes => rfl
    | directory => rfl
    | link target =>
      have hp : purpose.follows = false := by
        rcases hp : purpose.follows with _ | _
        · rfl
        · exact absurd he (hf hp target)
      simp [hp]

/-- The walk to a name in a directory of the directory that one is in. -/
theorem walk_pair (hd : IsName directory) (hl : byteLength directory ≤ nameLimit)
    (h : t.entry? (directory :: here) = some .directory) :
    t.walk purpose links here [directory, name] false =
      t.walk purpose links (directory :: here) [name] false := by
  rw [walk_cons hd.ne_point hd.ne_points (by simp) (by omega), h]
  rfl

end Groundwork.FileTree
