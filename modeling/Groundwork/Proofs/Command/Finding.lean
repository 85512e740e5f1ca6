import Groundwork.Proofs.Artifact.Layout
import Groundwork.Proofs.Command.Stages
import Groundwork.Proofs.Files.Vacancy
import Groundwork.Proofs.Path.Parents

/-!
# Which project is found

The project that is found depends on the files only (`locate_congr`). It stays the same when an
artifact is written, if no directory below its root can become a root (`Project.Settled`,
`Project.Settled.of_gains`): no artifact has the name of the marker file, so that only a link of
that name can come to lead to one, and the marker file of the root stays. A project that is found
from a directory is settled unless such a link, on the way from there up to the root, leads to
nothing (`settled_of_locate`).
-/

namespace Groundwork

open Text Groundwork.Path Workspace

/-- The project that is located depends on the files only. -/
theorem locate_congr (start : Path) {w w' : Workspace} (h : w.files = w'.files) :
    ((Project.locate start : Action (StateM Workspace) Path).run w).1 =
      ((Project.locate start : Action (StateM Workspace) Path).run w').1 := by
  rw [run_locate, run_locate, h]

/-! ## Settled projects -/

/-- At the end of a path there is a link, and what it leads to is missing. -/
def FileTree.Dangles (t : FileTree) (p : Path) : Prop :=
  (∃ location target slash, t.resolve .put p = .ok ⟨location, some (.link target), slash⟩) ∧
    (t.resolve .look p = .error .notFound ∨
      ∃ location slash, t.resolve .look p = .ok ⟨location, none, slash⟩)

/-- A directory is there and is no root, and no file made later makes one of it: there is nothing by
the name of the marker file, or it is decided what this name leads to. -/
structure FileTree.Unmarked (t : FileTree) (directory : Path) : Prop where
  /-- There is no marker file. -/
  isMarked : Project.isMarked t directory = false
  /-- There will not be one. -/
  decided : ∃ links here, t.Reaches directory links here ∧
    (t.entry? (Project.marker.text :: here) = none ∨ t.Decided (directory.join Project.marker))

namespace Project

/-- The directories on the way from `start` up to the root of the project, without the root. -/
def way (t : FileTree) (start : Path) : List Path :=
  start.ancestors.takeWhile fun directory => !isMarked t directory

/-- The project at `root` is found from `start`, and no file made later makes a root of a directory
below it. -/
structure Settled (start root : Path) (t : FileTree) : Prop where
  /-- The directories on the way from `start` up to the root are not marked. -/
  unmarked : ∃ below above, start.ancestors = below ++ root :: above ∧
    ∀ directory ∈ below, t.Unmarked directory
  /-- The root holds a marker file. -/
  isMarked : isMarked t root = true

end Project

variable {t t' : FileTree} {start root directory : Path} {here : Location} {kind : ArtifactKind}
  {entity : Entity} {artifact : Artifact}

theorem isName_marker : IsName Project.marker.text := by
  constructor <;> decide

/-- A directory in the root directory is one under the path that its name makes there. -/
theorem FileTree.isDirectory_in_root {name : String}
    (hpath : directory = (⟨"/"⟩ : Path).join ⟨name⟩) (hn : IsName name)
    (hl : byteLength name ≤ 100) (he : t.entry? [name] = some .directory) :
    t.isDirectory directory = true := by
  have hlimit : byteLength name ≤ nameLimit := hl.trans (by decide)
  rw [hpath]
  exact isDirectory_name t.reaches_root hn hlimit (short_join (by decide) hn.not_absolute hl) he

/-- The marker file of a short directory is not too far. -/
theorem short_marker (h : (encodeChars (anchored directory.text.toList)).length ≤ 100) :
    byteLength (directory.join Project.marker).text ≤ FileTree.pathLimit :=
  FileTree.short_join h isName_marker.not_absolute (by decide)

/-- What the name of the marker file leads to is decided unless there is nothing by this name or a
link that leads to nothing. -/
theorem decided_of_not_dangles {links : Nat} (hr : t.Reaches directory links here)
    (he : t.entry? (Project.marker.text :: here) ≠ none)
    (hd : ¬ t.Dangles (directory.join Project.marker)) :
    t.Decided (directory.join Project.marker) := by
  have hname : Project.marker = ⟨Project.marker.text⟩ := rfl
  by_cases hlong : FileTree.pathLimit < byteLength (directory.join Project.marker).text
  · refine .inr ⟨.nameTooLong, by simp, ?_⟩
    rw [hname] at hlong ⊢
    rw [FileTree.resolve_name hr isName_marker, if_pos hlong]
  replace hlong := Nat.not_lt.1 hlong
  rw [hname] at hlong hd ⊢
  have hput : t.resolve .put (directory.join ⟨Project.marker.text⟩) =
      .ok ⟨Project.marker.text :: here, t.entry? (Project.marker.text :: here), false⟩ :=
    FileTree.resolve_short_name hr isName_marker (by decide) hlong
      (by simp [FileTree.Purpose.follows])
  rcases hentry : t.entry? (Project.marker.text :: here) with _ | entry
  · exact absurd hentry he
  rw [hentry] at hput
  cases entry
  case link target =>
    rcases hlook : t.resolve .look (directory.join ⟨Project.marker.text⟩) with
      cause | ⟨location, found, slash⟩
    · by_cases hc : cause = .notFound
      · exact absurd ⟨⟨_, _, _, hput⟩, .inl (hc ▸ hlook)⟩ hd
      · exact .inr ⟨cause, hc, hlook⟩
    · cases found with
      | none => exact absurd ⟨⟨_, _, _, hput⟩, .inr ⟨_, _, hlook⟩⟩ hd
      | some found => exact .inl ⟨location, found, slash, hlook⟩
  all_goals
    exact .inl ⟨_, _, _, FileTree.resolve_short_name hr isName_marker (by decide) hlong
      (by simp [hentry]) |>.trans (by rw [hentry])⟩

/-- Where there is nothing by the name of the marker file there is no marker file. -/
theorem isMarked_of_missing {links : Nat} (hr : t.Reaches directory links here)
    (he : t.entry? (Project.marker.text :: here) = none) :
    Project.isMarked t directory = false := by
  have hname : Project.marker = ⟨Project.marker.text⟩ := rfl
  rw [Project.isMarked, FileTree.isFile, FileTree.find?, hname,
    FileTree.resolve_name hr isName_marker,
    FileTree.walk_name isName_marker (by decide) (by simp [he])]
  by_cases hlong : FileTree.pathLimit < byteLength (directory.join ⟨Project.marker.text⟩).text
  · simp [hlong]
  · simp [hlong, he]

theorem isMarked_of_walk {cause : FileError}
    (h : t.walk .look FileTree.linkLimit [] (directory.join Project.marker).steps false =
      .error cause) : Project.isMarked t directory = false := by
  have hslash : (directory.join Project.marker).endsWithSlash = false :=
    (endsWithSlash_join directory isName_marker.not_absolute (by decide)).trans (by decide)
  rcases hr : t.resolve .look (directory.join Project.marker) with e | place
  · rw [Project.isMarked, FileTree.isFile, FileTree.find?, hr]
  · obtain ⟨-, -, -, hw⟩ := FileTree.resolve_eq_ok_iff.1 hr
    rw [hslash, h] at hw
    cases hw

theorem isMarked_of_file {links : Nat} (hr : t.Reaches directory links here) {bytes : List UInt8}
    (he : t.entry? (Project.marker.text :: here) = some (.file bytes))
    (hl : byteLength (directory.join Project.marker).text ≤ FileTree.pathLimit) :
    Project.isMarked t directory = true := by
  have hname : Project.marker = ⟨Project.marker.text⟩ := rfl
  rw [hname] at hl
  rw [Project.isMarked, FileTree.isFile, FileTree.find?, hname,
    FileTree.resolve_short_name hr isName_marker (by decide) hl (by simp [he]), he]

theorem unmarked_of_missing {links : Nat} (hr : t.Reaches directory links here)
    (he : t.entry? (Project.marker.text :: here) = none) : t.Unmarked directory :=
  ⟨isMarked_of_missing hr he, links, here, hr, .inl he⟩

/-- The directories above one that is there are there. -/
theorem reaches_of_mem_ancestors {links : Nat} (hr : t.Reaches start links here)
    (hd : directory ∈ start.ancestors) : ∃ links' here', t.Reaches directory links' here' := by
  obtain ⟨extra, hsteps⟩ := steps_of_mem_ancestors hd
  have hdescends := hr.descends
  rw [hsteps, FileTree.descend_append] at hdescends
  rcases hfront : t.descend FileTree.linkLimit [] directory.steps with e | ⟨links', here'⟩
  · rw [hfront] at hdescends
    cases hdescends
  · exact ⟨links', here', fun hm => hr.noNull (mem_of_mem_ancestors (by decide) hd hm), hfront⟩

/-- Where there is nothing by the name of the marker file there is no link. -/
theorem not_dangles_of_missing {links : Nat} (hr : t.Reaches directory links here)
    (he : t.entry? (Project.marker.text :: here) = none) :
    ¬ t.Dangles (directory.join Project.marker) := by
  have hname : Project.marker = ⟨Project.marker.text⟩ := rfl
  rintro ⟨⟨location, target, slash, hput⟩, -⟩
  rw [hname, FileTree.resolve_name hr isName_marker,
    FileTree.walk_name isName_marker (by decide) (by simp [he]), he] at hput
  split at hput <;> cases hput

/-- The way to the root of the project is what is below the first root. -/
theorem way_eq {below above : List Path} (hsplit : start.ancestors = below ++ root :: above)
    (hbelow : ∀ directory ∈ below, Project.isMarked t directory = false)
    (hmarked : Project.isMarked t root = true) : Project.way t start = below := by
  rw [Project.way, hsplit, List.takeWhile_append_of_pos (by simpa using hbelow),
    List.takeWhile_cons_of_neg (by simp [hmarked]), List.append_nil]

/-- A project that is found from a directory is settled if none of the marker files looked for on
the way is a link that leads to nothing. -/
theorem settled_of_locate {w : Workspace} (hstart : w.files.isDirectory start = true)
    (hroot : ((Project.locate start : Action (StateM Workspace) Path).run w).1 = .ok root)
    (hlinks : ∀ directory ∈ Project.way w.files start,
      ¬ w.files.Dangles (directory.join Project.marker)) : Project.Settled start root w.files := by
  rw [run_locate] at hroot
  rcases hfind : start.ancestors.find? (Project.isMarked w.files) with _ | found
  · rw [hfind] at hroot
    cases hroot
  rw [hfind] at hroot
  obtain rfl : found = root := Except.ok.inj hroot
  obtain ⟨hmarked, below, above, hsplit, hbelow⟩ := List.find?_eq_some_iff_append.1 hfind
  obtain ⟨links, place, hr⟩ := FileTree.reaches_of_isDirectory hstart
  replace hbelow : ∀ directory ∈ below, Project.isMarked w.files directory = false := by
    simpa using hbelow
  refine ⟨⟨below, above, hsplit, fun directory hd => ?_⟩, hmarked⟩
  have hmem : directory ∈ start.ancestors := hsplit ▸ List.mem_append_left _ hd
  obtain ⟨links', place', hr'⟩ := reaches_of_mem_ancestors hr hmem
  refine ⟨hbelow directory hd, links', place', hr', ?_⟩
  by_cases he : w.files.entry? (Project.marker.text :: place') = none
  · exact .inl he
  · refine .inr (decided_of_not_dangles hr' he (hlinks directory ?_))
    rwa [way_eq hsplit hbelow hmarked]

theorem locate_of_settled {w : Workspace} (h : Project.Settled start root w.files) :
    ((Project.locate start : Action (StateM Workspace) Path).run w).1 = .ok root := by
  obtain ⟨below, above, hs, hb⟩ := h.unmarked
  have hnone : below.find? (Project.isMarked w.files) = none :=
    List.find?_eq_none.2 fun directory hd => by simp [(hb directory hd).isMarked]
  have hfind : start.ancestors.find? (Project.isMarked w.files) = some root := by
    rw [hs, List.find?_append, hnone, Option.none_or, List.find?_cons_of_pos h.isMarked]
  rw [run_locate, hfind]

/-! ## Writing an artifact -/

theorem isFile_of_grows {allowed : Location → List UInt8 → Prop} (hg : t.Grows allowed t')
    {p : Path} (h : t.isFile p = true) : t'.isFile p = true := by
  rw [FileTree.isFile, FileTree.find?] at h ⊢
  rcases hr : t.resolve .look p with e | ⟨location, entry, slash⟩
  · simp [hr] at h
  · rw [hr] at h
    rcases entry with _ | (bytes | _ | target)
    · simp at h
    · obtain ⟨entry', hr', he⟩ := FileTree.resolve_of_grows hg hr
      cases he
      cases slash
      · simp [hr']
      · simp at h
    · simp at h
    · simp at h

/-- No artifact has the name of the marker file. -/
theorem ArtifactKind.fileName_ne_marker (kind : ArtifactKind) (entity : Entity) :
    kind.fileName entity ≠ Project.marker.text := by
  intro he
  have hl := congrArg (fun s => s.toList.getLast?) he
  simp [fileName, Project.marker] at hl

theorem FileTree.Unmarked.of_gains {allowed : Location → List UInt8 → Prop}
    (h : t.Unmarked directory) (hg : t.Grows allowed t')
    (hgains : Gains root here kind entity artifact t t') : t'.Unmarked directory := by
  obtain ⟨links, place, hr, hmissing | hdecided⟩ := h.decided
  · refine unmarked_of_missing (hr.of_grows hg) ?_
    rwa [hgains.others]
    · exact fun hl => kind.fileName_ne_marker entity (List.cons.inj hl).1.symm
    · exact fun hl => absurd (List.cons.inj hl).1 (by decide)
    · exact fun hl => absurd (List.cons.inj hl).1 (by cases kind <;> decide)
  · obtain ⟨hdecided', hfile⟩ := hdecided.of_grows hg
    exact ⟨hfile.trans h.isMarked, links, place, hr.of_grows hg, .inr hdecided'⟩

theorem Project.Settled.of_gains {allowed : Location → List UInt8 → Prop}
    (h : Project.Settled start root t) (hg : t.Grows allowed t')
    (hgains : Gains root here kind entity artifact t t') : Project.Settled start root t' := by
  obtain ⟨below, above, ha, hb⟩ := h.unmarked
  exact ⟨⟨below, above, ha, fun directory hm => (hb directory hm).of_gains hg hgains⟩,
    isFile_of_grows hg h.isMarked⟩

end Groundwork
