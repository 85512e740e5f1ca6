import Groundwork.Proofs.Files.Growth

/-!
# Appending to a file that can be read

A file that can be read can be appended to under the same path, and afterwards what was appended is
read behind what was there (`append_of_read`). A path that ends with a slash cannot be read as a
file, and that is the only thing that appending asks for besides.
-/

namespace Groundwork.FileTree

variable {t : FileTree} {p : Path} {purpose : Purpose} {links : Nat} {here location : Location}
  {steps : List String} {slash : Bool} {bytes : List UInt8}

/-! ## Slashes -/

/-- Where a walk ends at a file without a slash, no slash followed its last name. -/
theorem slash_of_walk (ht : t.IsTrail here)
    (h : t.walk purpose links here steps slash = .ok ⟨location, some (.file bytes), false⟩) :
    slash = false := by
  fun_induction walk t purpose links here steps slash
  case case1 here _ =>
    rw [ht here (List.suffix_refl _)] at h
    cases h
  case case2 ih => exact ih ht h
  case case3 ih => exact ih ht.tail h
  case case11 hd _ ih => exact ih (ht.cons hd) h
  case case14 ih => exact (Bool.or_eq_false_iff.1 (ih (ht.start _) h)).1
  all_goals simp_all

/-- Where a walk to look ends at a file and no slash follows, so does the walk to append. -/
theorem walk_append_of_look (ht : t.IsTrail here)
    (h : t.walk .look links here steps slash = .ok ⟨location, some (.file bytes), false⟩) :
    t.walk .append links here steps slash = .ok ⟨location, some (.file bytes), false⟩ := by
  have hname (steps : List String) {slash : Bool} (hs : slash = false) :
      ¬(steps.isEmpty && slash && Purpose.append.namesFile) = true := by simp [hs]
  fun_induction walk t .look links here steps slash
  case case1 here _ =>
    rw [ht here (List.suffix_refl _)] at h
    cases h
  case case2 ih => simpa [walk] using ih ht h
  case case3 ih => simpa [walk] using ih ht.tail h
  case case8 hdot hup _ hlong bytes he hend =>
    simp only [Except.ok.injEq, Place.mk.injEq] at h
    obtain ⟨rfl, hfile, rfl⟩ := h
    simp only [walk_cons hdot hup (hname _ rfl) hlong, he, if_pos hend, hfile]
  case case11 hdot hup _ hlong hd hend ih =>
    rw [walk_cons hdot hup (hname _ (slash_of_walk (ht.cons hd) h)) hlong, hd]
    simp only [if_neg hend]
    exact ih (ht.cons hd) h
  case case14 hdot hup _ hlong target he hend hl ih =>
    have hs := (Bool.or_eq_false_iff.1 (slash_of_walk (ht.start target) h)).1
    rw [walk_cons hdot hup (hname _ hs) hlong, he]
    simp only [Purpose.follows, Bool.not_true, Bool.and_false, Bool.false_eq_true, if_false, hl]
    exact ih (ht.start target) h
  all_goals simp at h

/-! ## Reading and appending -/

theorem read_eq_ok_iff :
    t.read p = .ok bytes ↔
      ∃ location, t.resolve .look p = .ok ⟨location, some (.file bytes), false⟩ := by
  rcases hr : t.resolve .look p with e | ⟨location, _ | entry, slash⟩
  · simp [read, hr, bind, Except.bind]
  · simp [read, hr, bind, Except.bind, throw, throwThe, MonadExceptOf.throw]
  · cases entry <;> cases slash <;>
      simp [read, hr, bind, Except.bind, pure, Except.pure, throw, throwThe, MonadExceptOf.throw]

/-- A file that can be read can be appended to, and what is appended comes after what was there. -/
theorem append_of_read (h : t.read p = .ok bytes) (more : List UInt8) :
    ∃ t', t.append p more = .ok t' ∧ t'.read p = .ok (bytes ++ more) := by
  obtain ⟨location, hr⟩ := read_eq_ok_iff.1 h
  obtain ⟨h₀, h₁, h₂, hw⟩ := resolve_eq_ok_iff.1 hr
  have ha : t.resolve .append p = .ok ⟨location, some (.file bytes), false⟩ :=
    resolve_eq_ok_iff.2 ⟨h₀, h₁, h₂, walk_append_of_look t.isTrail_root hw⟩
  refine ⟨t.put location (.file (bytes ++ more)), by rw [append, ha]; rfl, ?_⟩
  have he : t.entry? location = some (.file bytes) := (entry_of_resolve hr).symm
  have hplace : location ≠ [] := by
    rintro rfl
    cases he
  -- the path leads to the same place as before, and the longer file is there
  have hg : t.Grows (fun _ _ => True) (t.put location (.file (bytes ++ more))) :=
    grows_put_file he trivial
  obtain ⟨entry, hr', -⟩ := resolve_of_grows hg hr
  have he' := (entry_of_resolve hr').trans (entry?_put_self hplace _)
  cases he'
  exact read_eq_ok_iff.2 ⟨location, hr'⟩

end Groundwork.FileTree
