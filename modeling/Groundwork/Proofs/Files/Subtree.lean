import Groundwork.Proofs.Files.Descent

/-!
# Equal subtrees

What a path leads to that goes down from a root depends on what is below the root only, if there are
no links there (`FileTree.read_join_congr`): two trees that have the same below the root
(`FileTree.SameBelow`) may differ everywhere else, and the root itself may be in another place. The
way into the root is a descent. It fails where the walk to the root fails, and otherwise it fails
unless the walk ends at a directory (`FileTree.enters`).
-/

namespace Groundwork.FileTree

open Text Groundwork.Path

variable {t t' : FileTree} {links links' : Nat} {here here' location : Location} {root : Path}
  {steps : List String} {slash : Bool}

/-! ## Into the end of a walk -/

/-- What a descent comes to beside the walk along the same steps, with a slash after them or not. -/
inductive Enters (slash : Bool) : Except FileError (Nat × Location) → Except FileError Place → Prop
  /-- The walk ends at a directory, which is gone into. -/
  | directory (links : Nat) (location : Location) (s : Bool) :
    Enters slash (.ok (links, location)) (.ok ⟨location, some .directory, s⟩)
  /-- The walk ends at a file, after which there is a slash if one was asked for. -/
  | file (location : Location) (bytes : List UInt8) (s : Bool) (hs : slash = true → s = true) :
    Enters slash (.error .notADirectory) (.ok ⟨location, some (.file bytes), s⟩)
  /-- There is nothing at the end of the walk. -/
  | missing (location : Location) (s : Bool) :
    Enters slash (.error .notFound) (.ok ⟨location, none, s⟩)
  /-- The walk fails. -/
  | failed (e : FileError) : Enters slash (.error e) (.error e)

theorem Enters.of_or {b : Bool} {r : Except FileError (Nat × Location)}
    {walked : Except FileError Place} (h : Enters (slash || b) r walked) :
    Enters slash r walked := by
  cases h with
  | directory links location s => exact .directory links location s
  | file location bytes s hs => exact .file location bytes s fun h => hs (by rw [h, Bool.true_or])
  | missing location s => exact .missing location s
  | failed e => exact .failed e

theorem enters (htrail : t.IsTrail here) (links : Nat) (steps : List String) (slash : Bool) :
    Enters slash (t.descend links here steps) (t.walk .look links here steps slash) := by
  have hnames {rest : List String} {slash : Bool} :
      ¬(rest.isEmpty && slash && Purpose.look.namesFile) = true := by simp [Purpose.namesFile]
  fun_induction descend t links here steps generalizing slash
  case case1 links here =>
    rw [walk, htrail here List.suffix_rfl]
    exact .directory links here false
  case case2 ih =>
    rw [walk, if_pos rfl]
    exact ih htrail slash
  case case3 ih =>
    rw [walk, if_neg (by decide), if_pos rfl]
    exact ih htrail.tail slash
  case case4 hdot hup hlong =>
    rw [walk, if_neg hdot, if_neg hup, if_neg hnames, if_pos hlong]
    exact .failed _
  case case5 rest hdot hup hlong he =>
    rw [walk_cons hdot hup hnames hlong, he]
    cases rest with
    | nil => exact .missing _ slash
    | cons next rest => exact .failed _
  case case6 rest hdot hup hlong bytes he =>
    rw [walk_cons hdot hup hnames hlong, he]
    cases rest with
    | nil => exact .file _ bytes slash id
    | cons next rest => exact .failed _
  case case7 rest hdot hup hlong he ih =>
    rw [walk_cons hdot hup hnames hlong, he]
    cases rest with
    | nil =>
      rw [descend]
      exact .directory _ _ slash
    | cons next rest => exact ih (htrail.cons he) slash
  case case8 hdot hup hlong target he =>
    rw [walk_cons hdot hup hnames hlong, he]
    simp only [Purpose.follows, Bool.not_true, Bool.and_false, Bool.false_eq_true, if_false,
      if_true]
    exact .failed _
  case case9 rest hdot hup hlong target he hl ih =>
    rw [walk_cons hdot hup hnames hlong, he]
    simp only [Purpose.follows, Bool.not_true, Bool.and_false, Bool.false_eq_true, if_false,
      if_neg hl]
    exact (ih (htrail.start target) _).of_or

/-! ## What is read at the end of a walk -/

/-- The bytes of the file that a walk has ended at. -/
def Place.content (place : Place) : Except FileError (List UInt8) :=
  match place.entry with
  | some (.file bytes) => if place.slash then .error .notADirectory else .ok bytes
  | some .directory => .error .isADirectory
  | _ => .error .notFound

theorem read_eq (t : FileTree) (p : Path) : t.read p = (t.resolve .look p).bind Place.content := by
  rw [read]
  rcases t.resolve .look p with e | ⟨location, entry, slash⟩
  · rfl
  · rcases entry with _ | (bytes | _ | target)
    · rfl
    · cases slash <;> rfl
    · rfl
    · rfl

/-- No file is read at the end of a walk that asks for a directory. -/
theorem Enters.content {r : Except FileError (Nat × Location)} {walked : Except FileError Place}
    (h : Enters true r walked) :
    walked.bind Place.content = r.bind fun _ => .error .isADirectory := by
  cases h with
  | directory => rfl
  | file location bytes s hs =>
    obtain rfl := hs rfl
    rfl
  | missing => rfl
  | failed => rfl

/-! ## The same below a root -/

/-- Two trees have the same below two places, and no link. -/
structure EqualBelow (t t' : FileTree) (here here' : Location) : Prop where
  /-- At and below the places there is the same. -/
  same : ∀ location, t.entry? (location ++ here) = t'.entry? (location ++ here')
  /-- There is no link. -/
  noLink : ∀ location target, t.entry? (location ++ here) ≠ some (.link target)

/-- Where the steps of a path lead. The empty path has none and leads to where one is. -/
def trace (t : FileTree) (p : Path) : Except FileError Place :=
  t.walk .look linkLimit [] p.steps p.endsWithSlash

/-- A path leads to nothing, since it or something on the way is not there. -/
def Missing (t : FileTree) (p : Path) : Prop :=
  t.trace p = .error .notFound ∨ ∃ place, t.trace p = .ok place ∧ place.entry = none

/-- Two trees have the same below a root, without links, or the root is missing in both. -/
inductive SameBelow (root : Path) (t t' : FileTree) : Prop
  /-- The root leads to places that have the same below them. -/
  | there {place place' : Place} (h : t.trace root = .ok place) (h' : t'.trace root = .ok place')
    (hbelow : t.EqualBelow t' place.location place'.location)
  /-- The root is missing in both trees. -/
  | missing (h : t.Missing root) (h' : t'.Missing root)

theorem descend_of_missing (h : t.Missing root) :
    t.descend linkLimit [] root.steps = .error .notFound := by
  have henters := enters t.isTrail_root linkLimit root.steps root.endsWithSlash
  obtain h | ⟨place, h, hnone⟩ := h
  · rw [← trace, h] at henters
    generalize t.descend linkLimit [] root.steps = r at henters ⊢
    cases henters
    rfl
  · rw [← trace, h] at henters
    generalize t.descend linkLimit [] root.steps = r at henters ⊢
    cases henters <;> first | rfl | cases hnone

/-- The descents into two roots that have the same below them go on from there, or fail for the same
cause. -/
theorem SameBelow.descends (h : SameBelow root t t') :
    (∃ links links' here here', t.descend linkLimit [] root.steps = .ok (links, here) ∧
      t'.descend linkLimit [] root.steps = .ok (links', here') ∧ t.EqualBelow t' here here') ∨
    ∃ e, t.descend linkLimit [] root.steps = .error e ∧
      t'.descend linkLimit [] root.steps = .error e := by
  cases h with
  | missing h h' => exact .inr ⟨.notFound, descend_of_missing h, descend_of_missing h'⟩
  | @there place place' h h' hbelow =>
    have henters := enters t.isTrail_root linkLimit root.steps root.endsWithSlash
    have henters' := enters t'.isTrail_root linkLimit root.steps root.endsWithSlash
    have hentry : place.entry = place'.entry :=
      (entry_of_walk h).trans ((hbelow.same []).trans (entry_of_walk h').symm)
    rw [← trace, h] at henters
    rw [← trace, h'] at henters'
    generalize t.descend linkLimit [] root.steps = r at henters ⊢
    generalize t'.descend linkLimit [] root.steps = r' at henters' ⊢
    cases henters with
    | directory links here =>
      cases henters' with
      | directory links' here' => exact .inl ⟨links, links', here, here', rfl, rfl, hbelow⟩
      | file => cases hentry
      | missing => cases hentry
    | file =>
      cases henters' with
      | directory => cases hentry
      | file => exact .inr ⟨.notADirectory, rfl, rfl⟩
      | missing => cases hentry
    | missing =>
      cases henters' with
      | directory => cases hentry
      | file => cases hentry
      | missing => exact .inr ⟨.notFound, rfl, rfl⟩

/-- A walk that goes down comes to the same in two places that have the same below them. -/
theorem EqualBelow.walk_content (h : t.EqualBelow t' here here') (hup : ".." ∉ steps)
    (location : Location) :
    (t.walk .look links (location ++ here) steps slash).bind Place.content =
      (t'.walk .look links' (location ++ here') steps slash).bind Place.content := by
  induction steps generalizing location with
  | nil =>
    rw [walk, walk, h.same location]
    rfl
  | cons step steps ih =>
    obtain ⟨hstep, hsteps⟩ := not_or.1 (mt List.mem_cons.2 hup)
    by_cases hdot : step = "."
    · rw [walk, if_pos hdot, ih hsteps location, walk, if_pos hdot]
    · have hnames : ¬(steps.isEmpty && slash && Purpose.look.namesFile) = true := by
        simp [Purpose.namesFile]
      by_cases hlong : nameLimit < byteLength step
      · rw [walk, walk, if_neg hdot, if_neg (Ne.symm hstep), if_neg hnames, if_pos hlong,
          if_neg hdot, if_neg (Ne.symm hstep), if_neg hnames, if_pos hlong]
      · have hsame :
            t.entry? (step :: (location ++ here)) = t'.entry? (step :: (location ++ here')) :=
          h.same (step :: location)
        rw [walk_cons hdot (Ne.symm hstep) hnames hlong,
          walk_cons hdot (Ne.symm hstep) hnames hlong, ← hsame]
        rcases he : t.entry? (step :: (location ++ here)) with _ | (bytes | _ | target)
        · cases steps <;> rfl
        · cases steps <;> rfl
        · have hbelow := ih hsteps (step :: location)
          cases steps with
          | nil => rfl
          | cons next steps => exact hbelow
        · exact absurd he (h.noLink (step :: location) target)

/-- A path without steps that does not begin at the root is empty. -/
theorem toList_of_steps_eq_nil {p : Path} (ha : isAbsoluteChars p.text.toList = false)
    (hs : p.steps = []) : p.text.toList = [] := by
  have hpieces : ∀ piece ∈ pieces '/' p.text.toList, piece = [] := by
    simpa [Path.steps, List.filter_eq_nil_iff] using hs
  have hslashes := eq_replicate_of_pieces hpieces
  rcases hlength : p.text.toList.length with _ | n
  · exact List.length_eq_zero_iff.1 hlength
  · rw [hlength, List.replicate_succ] at hslashes
    rw [hslashes] at ha
    cases ha

/-- What is read below a root depends on what is there only. -/
theorem read_join_congr (h : SameBelow root t t') {rest : Path}
    (ha : isAbsoluteChars rest.text.toList = false) (hup : ".." ∉ rest.steps) :
    t.read (root.join rest) = t'.read (root.join rest) := by
  rw [read_eq, read_eq, resolve, resolve]
  split
  · rfl
  · split
    · rfl
    · next htext =>
      split
      · rfl
      · rw [steps_join root ha]
        by_cases hsteps : rest.steps = []
        · -- the root itself, with a slash at its end
          have hslash : (root.join rest).endsWithSlash = true := by
            have hjoin : (root.join rest).text.toList = anchored root.text.toList := by
              rw [toList_join root ha, toList_of_steps_eq_nil ha hsteps, List.append_nil]
            obtain hnil | ⟨above, habove, -⟩ := anchored_cases root.text.toList
            · rw [hnil, anchored_nil] at hjoin
              exact absurd (String.toList_eq_nil_iff.1 hjoin) htext
            · rw [endsWithSlash, hjoin, habove, List.getLast?_concat]
              rfl
          have hcontent := (enters t.isTrail_root linkLimit root.steps true).content
          have hcontent' := (enters t'.isTrail_root linkLimit root.steps true).content
          rw [hsteps, List.append_nil, hslash, hcontent, hcontent']
          obtain ⟨links, links', here, here', hd, hd', -⟩ | ⟨e, hd, hd'⟩ := h.descends
          · rw [hd, hd']
            rfl
          · rw [hd, hd']
        · rw [walk_append _ _ _ _ _ _ hsteps, walk_append _ _ _ _ _ _ hsteps]
          obtain ⟨links, links', here, here', hd, hd', hbelow⟩ | ⟨e, hd, hd'⟩ := h.descends
          · rw [hd, hd']
            exact hbelow.walk_content hup []
          · rw [hd, hd']

end Groundwork.FileTree
