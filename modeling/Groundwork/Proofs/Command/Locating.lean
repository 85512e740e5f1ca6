import Groundwork.Proofs.Command.Success
import Groundwork.Proofs.Files.Vacancy
import Groundwork.Proofs.Json.Reading
import Groundwork.Proofs.Path.Ancestors

/-!
# The way from a directory to its project

The root that is located is the nearest marked directory on the way up (`Project.Nearest`), and the
directory that one is in matters to a command by this root alone (`Project.locate_nearest`). One
more segment at the end of the path that one starts from makes no difference, as long as it holds no
marker file; but the way up from there goes through the path as it is without slashes and points at
its end. So a root that was written with them is found without them, and a path that is too long to
be looked at because of them can be found at all. The one thing that a command says by the directory
that one is in is what the reader of settings says of a marker file that it refuses
(`Setting.message_directory_eq_iff`). For each of these there is a tree in which it makes a
difference (`Project.locate_deep`).
-/

namespace Groundwork

open Text Groundwork.Path Workspace

/-! ## Names in a directory that is written in two ways -/

namespace FileTree

variable {t : FileTree} {purpose : Purpose} {links : Nat} {here : Location} {name : String}

/-- Points on the way make no difference. -/
theorem walk_points_append {points : List String} (h : ∀ s ∈ points, s = ".") (steps : List String)
    (slash : Bool) :
    t.walk purpose links here (points ++ steps) slash = t.walk purpose links here steps slash := by
  induction points with
  | nil => rfl
  | cons s points ih =>
    obtain ⟨rfl, hpoints⟩ := List.forall_mem_cons.1 h
    rw [List.cons_append, walk, if_pos rfl, ih hpoints]

/-- A name leads to the same place from a path and from the trimmed path, if it is not too far. -/
theorem resolve_trimmed_join (t : FileTree) (purpose : Purpose) (p : Path) (hn : IsName name)
    (h : byteLength (p.join ⟨name⟩).text ≤ pathLimit) :
    t.resolve purpose (p.trimmed.join ⟨name⟩) = t.resolve purpose (p.join ⟨name⟩) := by
  have habsolute : isAbsoluteChars (⟨name⟩ : Path).text.toList = false := hn.not_absolute
  have hshort := byteLength_trimmed_join_le p habsolute
  have hnull : (p.trimmed.join ⟨name⟩).text.toList.contains '\x00' =
      (p.join ⟨name⟩).text.toList.contains '\x00' := by
    rw [Bool.eq_iff_iff, List.contains_iff_mem, List.contains_iff_mem, toList_join _ habsolute,
      toList_join _ habsolute, List.mem_append, List.mem_append]
    have hanchored (q : Path) : '\x00' ∈ anchored q.text.toList ↔ '\x00' ∈ q.text.toList :=
      ⟨mem_of_mem_anchored (by decide), mem_anchored⟩
    rw [hanchored, hanchored, null_mem_trimmed_iff]
  obtain ⟨points, hpoints, hsteps⟩ := steps_eq_trimmed p
  have hwalk : t.walk purpose linkLimit [] (p.join ⟨name⟩).steps (p.join ⟨name⟩).endsWithSlash =
      t.walk purpose linkLimit [] (p.trimmed.join ⟨name⟩).steps
        (p.trimmed.join ⟨name⟩).endsWithSlash := by
    rw [endsWithSlash_join p habsolute hn.toList_ne_nil,
      endsWithSlash_join p.trimmed habsolute hn.toList_ne_nil, steps_join p habsolute,
      steps_join p.trimmed habsolute, hn.steps, hsteps, List.append_assoc,
      walk_append _ _ _ _ _ _ (by simp), walk_append _ _ _ _ _ _ (List.cons_ne_nil _ _)]
    simp only [walk_points_append hpoints]
  have hfar : ¬ pathLimit < byteLength (p.join ⟨name⟩).text := by omega
  have hfarTrimmed : ¬ pathLimit < byteLength (p.trimmed.join ⟨name⟩).text := by omega
  simp only [resolve, hnull, hwalk, text_join_ne_empty _ hn, hfar, hfarTrimmed, if_false]

end FileTree

/-! ## The nearest marked directory -/

namespace Project

/-- The first directory that holds the marker file, of a path and those above it one by one. -/
inductive Nearest (t : FileTree) : Path → Path → Prop
  /-- It is the path itself. -/
  | here {directory : Path} (h : isMarked t directory = true) : Nearest t directory directory
  /-- It is found from the path above. -/
  | above {directory up root : Path} (hd : isMarked t directory = false)
    (hup : directory.parent? = some up) (h : Nearest t up root) : Nearest t directory root

variable {t : FileTree} {start root up : Path} {w : Workspace}

theorem find?_of_nearest (h : Nearest t start root) :
    start.ancestors.find? (isMarked t) = some root := by
  induction h with
  | here h => rw [ancestors, List.find?_cons_of_pos h]
  | @above directory up root hd hup h ih =>
    rw [ancestors, List.find?_cons_of_neg (by simp [hd]), parents_eq, hup]
    exact ih

theorem nearest_of_find? (h : start.ancestors.find? (isMarked t) = some root) :
    Nearest t start root := by
  rw [ancestors] at h
  generalize hparents : start.parents = parents at h
  induction parents generalizing start with
  | nil =>
    obtain ⟨hmarked, hmem⟩ := And.intro (List.find?_some h) (List.mem_of_find?_eq_some h)
    obtain rfl := List.mem_singleton.1 hmem
    exact .here hmarked
  | cons next parents ih =>
    rcases hmarked : isMarked t start with _ | _
    · rw [List.find?_cons_of_neg (by simp [hmarked])] at h
      have hup : start.parent? = some next := by rw [parent?, hparents]; rfl
      rw [parents_eq, hup] at hparents
      exact .above hmarked hup (ih (List.cons.inj hparents).2 h)
    · rw [List.find?_cons_of_pos hmarked] at h
      obtain rfl := Option.some.inj h
      exact .here hmarked

theorem nearest_iff : Nearest t start root ↔ start.ancestors.find? (isMarked t) = some root :=
  ⟨find?_of_nearest, nearest_of_find?⟩

/-- A root is located exactly if it is the nearest marked directory. -/
theorem locate_eq_ok_iff : (locate start : Action (StateM Workspace) Path).run w = (.ok root, w) ↔
    Nearest w.files start root := by
  rw [nearest_iff, run_locate]
  rcases start.ancestors.find? (isMarked w.files) with _ | found
  · exact ⟨nofun, nofun⟩
  · constructor
    · rintro ⟨⟩
      rfl
    · rintro ⟨⟩
      rfl

/-- No root is located exactly if there is no marked directory on the way up. -/
theorem locate_eq_error_iff :
    (locate start : Action (StateM Workspace) Path).run w = (.error (.noProject start), w) ↔
      ∀ root, ¬ Nearest w.files start root := by
  simp only [nearest_iff, run_locate]
  rcases start.ancestors.find? (isMarked w.files) with _ | found
  · exact ⟨fun _ _ => nofun, fun _ => rfl⟩
  · exact ⟨nofun, fun h => absurd rfl (h found)⟩

/-! ## One more segment -/

theorem isMarked_trimmed
    (h : start.trimmed = start ∨ byteLength (start.join marker).text ≤ FileTree.pathLimit) :
    isMarked t start.trimmed = isMarked t start := by
  obtain htrimmed | hshort := h
  · rw [htrimmed]
  · have hname : marker = ⟨marker.text⟩ := rfl
    rw [hname] at hshort
    rw [isMarked, isMarked, FileTree.isFile, FileTree.isFile, FileTree.find?, FileTree.find?, hname,
      FileTree.resolve_trimmed_join t .look start isName_marker hshort]

/-- From a segment that holds no marker file, what is located from the path before it is located
without the slashes and points at its end. -/
theorem find?_join {name : String} (hslash : '/' ∉ name.toList) (hidle : isIdle name.toList = false)
    (hname : isMarked t (start.join ⟨name⟩) = false)
    (hstart : start.trimmed = start ∨ byteLength (start.join marker).text ≤ FileTree.pathLimit)
    (h : start.ancestors.find? (isMarked t) = some root) :
    (start.join ⟨name⟩).ancestors.find? (isMarked t) = some root.trimmed := by
  rw [ancestors, List.find?_cons_of_neg (by simp [hname]), parents_join start hslash hidle]
  rw [ancestors] at h
  have hmarked := isMarked_trimmed (t := t) hstart
  rcases hm : isMarked t start with _ | _
  · rw [List.find?_cons_of_neg (by simp [hm])] at h
    rw [List.find?_cons_of_neg (by simp [hmarked, hm]), h,
      trimmed_of_mem_parents (List.mem_of_find?_eq_some h)]
  · rw [List.find?_cons_of_pos hm] at h
    obtain rfl := Option.some.inj h
    rw [List.find?_cons_of_pos (hmarked.trans hm)]

theorem trimmed_of_nearest (h : Nearest t start root) : root = start ∨ root.trimmed = root := by
  have hmem := List.mem_of_find?_eq_some (nearest_iff.1 h)
  obtain rfl | hmem := List.mem_cons.1 hmem
  · exact .inl rfl
  · exact .inr (trimmed_of_mem_parents hmem)

/-! ## Directories of the same project -/

variable {first second : Path}

theorem discover_eq_of_located
    (hfirst : (locate first : Action (StateM Workspace) Path).run w = (.ok root, w))
    (hsecond : (locate second : Action (StateM Workspace) Path).run w = (.ok root, w)) :
    (discover first : Action (StateM Workspace) Project).run w =
      (discover second : Action (StateM Workspace) Project).run w := by
  rw [discover, discover, andThen_of_ok hfirst, andThen_of_ok hsecond]

end Project

theorem Failure.explained_inj {failure : Failure} {e e' : Option String} :
    failure.explained e = failure.explained e' ↔ e = e' := by
  refine ⟨fun h => ?_, congrArg _⟩
  have hcolon : ": ".toList ≠ [] := by decide
  replace h := congrArg String.toList h
  cases e <;> cases e' <;>
    simp only [explained, String.toList_append, List.append_assoc, List.append_cancel_left_eq,
      List.self_eq_append_right, List.append_right_eq_self, List.append_eq_nil_iff, hcolon,
      false_and, String.toList_inj] at h
  · rfl
  · rw [h]

namespace Setting

variable {setting : Setting}

/-- A failure is told in the same words from two directories unless the settings are refused, with
different words for it. -/
theorem message_directory_eq_iff {failure : Failure} {first second : Path} :
    { setting with directory := first }.message failure =
        { setting with directory := second }.message failure ↔
      failure.kind ≠ .settings ∨
        setting.explanations.settings first = setting.explanations.settings second := by
  rw [message, message, Failure.explained_inj]
  cases failure <;> simp [Failure.kind, explanation]

end Setting

namespace Make

variable {first second root : Path} {w : Workspace}

theorem perform_eq_of_located (hfirst : Project.Nearest w.files first root)
    (hsecond : Project.Nearest w.files second root) (make : Make) :
    (make.perform first :
      ExceptT (Stage × Failure) (StateM Workspace) (Artifact × Written)).run w =
        (make.perform second :
          ExceptT (Stage × Failure) (StateM Workspace) (Artifact × Written)).run w := by
  have hdiscover (w' : Workspace) (hw : w'.files = w.files) :
      (Project.discover first : Action (StateM Workspace) Project).run w' =
        (Project.discover second : Action (StateM Workspace) Project).run w' := by
    rw [← hw] at hfirst hsecond
    exact Project.discover_eq_of_located (Project.locate_eq_ok_iff.2 hfirst)
      (Project.locate_eq_ok_iff.2 hsecond)
  have hentered :=
    hdiscover ((advance .idle .validatingContext : StateM Workspace Unit) w).2 rfl
  rw [perform, perform, run_andThen, run_andThen, run_enter_eq, run_enter_eq, hentered]

/-- A command that makes an artifact does the same from two directories of one project, and tells
the same unless the settings of the project are refused, with different words for it. -/
theorem run_directory (hfirst : Project.Nearest w.files first root)
    (hsecond : Project.Nearest w.files second root) (make : Make) (setting : Setting) :
    let one := (make.run { setting with directory := first } : StateM Workspace Report) w
    let two := (make.run { setting with directory := second } : StateM Workspace Report) w
    one.2.files = two.2.files ∧
      (one = two ↔ (∀ message, one.1.outcome ≠ .failure .settings message) ∨
        setting.explanations.settings first = setting.explanations.settings second) := by
  intro one two
  have hperform := perform_eq_of_located hfirst hsecond make
  rcases hrun : (make.perform second :
    ExceptT (Stage × Failure) (StateM Workspace) (Artifact × Written)).run w with ⟨r, w'⟩
  rw [hrun] at hperform
  obtain ⟨hone, hfiles⟩ := run_of_perform make { setting with directory := first } hperform
  obtain ⟨htwo, hfiles'⟩ := run_of_perform make { setting with directory := second } hrun
  have hsame : one.2.files = two.2.files := by simp only [one, two, hfiles, hfiles']
  refine ⟨hsame, ?_⟩
  rcases r with ⟨stage, failure⟩ | ⟨artifact, written⟩
  · have htold : one = two ↔ { setting with directory := first }.message failure =
        { setting with directory := second }.message failure := by
      constructor
      · intro h
        have ho := congrArg (fun run : Report × Workspace => run.1.outcome) h
        simp only [one, two, hone, htwo, reported, Setting.failureReport] at ho
        exact (Outcome.failure.inj ho).2
      · intro h
        simp only [one, two, Make.run, bind, StateT.bind, hperform, hrun, Setting.failed, h]
        rfl
    have hkind : (∀ message, one.1.outcome ≠ .failure .settings message) ↔
        failure.kind ≠ .settings := by
      simp only [one, hone, reported, Setting.failureReport]
      exact ⟨fun h hk => h _ (by rw [hk]), fun h message ho => h (Outcome.failure.inj ho).1⟩
    rw [htold, Setting.message_directory_eq_iff, hkind]
  · have hsuccess : one.1.outcome = .success written.path := by rw [hone]; rfl
    refine iff_of_true ?_ (.inl fun message ho => by cases hsuccess.symm.trans ho)
    simp only [one, two, Make.run, bind, StateT.bind, hperform, hrun]
    rfl

end Make

namespace Project

/-- **A command depends on the directory that one is in by the nearest marked directory only.** That
is the root that is located, of the path that one starts from and the paths above it one by one, and
there is no project exactly if none of them is marked; locating changes nothing. If one more segment
is put at the end of the path and holds no marker file itself, the same root is located, where
slashes and points at the end of a root are left out; such ones are there only if the root is the
path that one has started from. For a path with slashes or points at its end this holds if its own
marker file is not too far to be looked at. From any two paths with the same located root, every
command that makes an artifact leaves the same files, and it gives the same report and the same log,
unless it fails because the settings are refused, and what their reader says differs. -/
theorem locate_nearest (w : Workspace) :
    (∀ start : Path,
      (∀ root, (locate start : Action (StateM Workspace) Path).run w = (.ok root, w) ↔
        Nearest w.files start root) ∧
      ((locate start : Action (StateM Workspace) Path).run w = (.error (.noProject start), w) ↔
        ∀ root, ¬ Nearest w.files start root)) ∧
    (∀ (start root : Path) (name : String),
      '/' ∉ name.toList → isIdle name.toList = false →
      w.files.isFile ((start.join ⟨name⟩).join marker) = false →
      start.trimmed = start ∨ byteLength (start.join marker).text ≤ FileTree.pathLimit →
      (locate start : Action (StateM Workspace) Path).run w = (.ok root, w) →
        (locate (start.join ⟨name⟩) : Action (StateM Workspace) Path).run w =
          (.ok root.trimmed, w) ∧ (root = start ∨ root.trimmed = root)) ∧
    ∀ (first second root : Path),
      (locate first : Action (StateM Workspace) Path).run w = (.ok root, w) →
      (locate second : Action (StateM Workspace) Path).run w = (.ok root, w) →
      ∀ (make : Make) (setting : Setting),
        let one := (make.run { setting with directory := first } : StateM Workspace Report) w
        let two := (make.run { setting with directory := second } : StateM Workspace Report) w
        one.2.files = two.2.files ∧
          (one = two ↔ (∀ message, one.1.outcome ≠ .failure .settings message) ∨
            setting.explanations.settings first = setting.explanations.settings second) := by
  refine ⟨fun start => ⟨fun root => locate_eq_ok_iff, locate_eq_error_iff⟩, ?_, ?_⟩
  · intro start root name hslash hidle hname hstart hroot
    have hnearest := locate_eq_ok_iff.1 hroot
    refine ⟨locate_eq_ok_iff.2 (nearest_iff.2 ?_), trimmed_of_nearest hnearest⟩
    exact find?_join hslash hidle hname hstart (nearest_iff.1 hnearest)
  · intro first second root hfirst hsecond make setting
    exact Make.run_directory (locate_eq_ok_iff.1 hfirst) (locate_eq_ok_iff.1 hsecond) make setting

/-! ### A project in another one -/

/-- A project in the root directory and one in a directory of it. -/
def nested : FileTree :=
  ⟨[(["oryum.json", "a"], .file []), (["a"], .directory), (["oryum.json"], .file [])]⟩

/-- The path of the inner project with slashes at its end, one at least. -/
def slashed (more : Nat) : Path := ⟨String.ofList ("/a".toList ++ '/' :: List.replicate more '/')⟩

variable {links : Nat} {here : Location} {directory : Path}

theorem isMarked_of_long (h : FileTree.pathLimit < byteLength (directory.join marker).text) :
    isMarked t directory = false := by
  rcases hr : t.resolve .look (directory.join marker) with e | place
  · rw [isMarked, FileTree.isFile, FileTree.find?, hr]
  · obtain ⟨-, -, hshort, -⟩ := FileTree.resolve_eq_ok_iff.1 hr
    omega

theorem toList_slashed (more : Nat) :
    (slashed more).text.toList = "/a".toList ++ '/' :: List.replicate more '/' :=
  String.toList_ofList

theorem endsIn_slashed (more : Nat) : (slashed more).EndsIn "a" "/a".toList where
  isName := by decide
  slashes := ⟨more + 1, toList_slashed more⟩
  last := ⟨[[]], by decide⟩

/-- The way up from the path with slashes goes through the path without them. -/
theorem trimmed_slashed (more : Nat) :
    (slashed more).trimmed = ⟨"/a"⟩ ∧ (slashed more).parents = [⟨"/"⟩] := by
  have hidle : (segments (slashed more).text.toList).dropWhile isIdle = [['a']] := by
    have hpieces : pieces '/' (List.replicate more '/') = List.replicate more [] ++ [[]] := by
      rw [← List.append_nil (List.replicate more '/'), pieces_replicate_append]
      rfl
    have hinner : segments "/a".toList = [['a']] := by decide
    rw [toList_slashed, segments_append_slash (by decide), hpieces, hinner,
      List.dropWhile_append_of_pos (by simp [isIdle])]
    rfl
  have hlead : lead (slashed more).text.toList = ['/'] := by
    rw [toList_slashed, lead_append_slash (by decide)]
    rfl
  constructor
  · rw [trimmed, ← ofSegments_dropWhile, hidle, hlead]
    rfl
  · rw [parents, ← above_dropWhile, hidle, hlead]
    rfl

theorem anchored_slashed (more : Nat) :
    anchored (slashed more).text.toList = "/a".toList ++ '/' :: List.replicate more '/' := by
  rw [toList_slashed, anchored_append_slash]
  cases more with
  | zero => rfl
  | succ more => simp [anchored, List.getLast?_replicate]

theorem byteLength_slashed_join (more : Nat) :
    byteLength ((slashed more).join marker).text = more + 13 := by
  have hone : '/'.utf8Size = 1 := by decide
  have hmore : (encodeChars ('/' :: List.replicate more '/')).length = 1 + more := by
    simp [encodeChars, List.flatMap_replicate, hone]
  have hinner : (encodeChars "/a".toList).length = 2 := by decide
  have hmarker : byteLength marker.text = 10 := by decide
  rw [byteLength_join _ isName_marker.not_absolute, anchored_slashed, hmarker, encodeChars,
    List.flatMap_append, List.length_append, ← encodeChars, ← encodeChars, hinner, hmore]
  omega

/-- The path is one of the inner project, however many slashes follow. -/
theorem reaches_slashed (more : Nat) :
    nested.Reaches (slashed more) FileTree.linkLimit ["a"] := by
  have hcut : (endsIn_slashed more).cut = ⟨"/a"⟩ := rfl
  have hsteps : (slashed more).steps = ["a"] := by
    rw [← (endsIn_slashed more).steps_cut, hcut]
    decide
  exact FileTree.reaches_of_steps hsteps (by simp [toList_slashed]) (by decide) (by decide) rfl

theorem isMarked_nested_root : isMarked nested ⟨"/"⟩ = true := by
  have hmarker : nested.entry? ["oryum.json"] = some (.file []) := by decide
  exact isMarked_of_file (FileTree.reaches_root nested) hmarker (short_marker (by decide))

theorem entry?_nested_inner : nested.entry? ["oryum.json", "a"] = some (.file []) := by decide

theorem reaches_nested_inner : nested.Reaches ⟨"/a"⟩ FileTree.linkLimit ["a"] :=
  (reaches_slashed 0).cut (endsIn_slashed 0)

theorem isMarked_nested_inner : isMarked nested ⟨"/a"⟩ = true :=
  isMarked_of_file reaches_nested_inner entry?_nested_inner (short_marker (by decide))

theorem isMarked_nested_below (more : Nat) :
    isMarked nested ((slashed more).join ⟨"x"⟩) = false := by
  have hsteps : (((slashed more).join ⟨"x"⟩).join marker).steps =
      (slashed more).steps ++ ["x", "oryum.json"] := by
    have hmore : (⟨"x"⟩ : Path).steps ++ marker.steps = ["x", "oryum.json"] := by decide
    rw [steps_join _ isName_marker.not_absolute, steps_join _ (by decide), List.append_assoc, hmore]
  have hwalk : nested.walk .look FileTree.linkLimit []
      (((slashed more).join ⟨"x"⟩).join marker).steps false = .error .notFound := by
    rw [hsteps, FileTree.walk_append _ _ _ _ _ _ (by decide), (reaches_slashed more).descends]
    exact FileTree.walk_cons (by decide) (by decide) (by decide) (by decide)
  exact isMarked_of_walk hwalk

theorem isMarked_nested_slashed : isMarked nested (slashed 0) = true := by
  refine isMarked_of_file (reaches_slashed 0) entry?_nested_inner ?_
  rw [byteLength_slashed_join]
  decide

theorem isMarked_nested_slashed_long : isMarked nested (slashed 4089) = false := by
  apply isMarked_of_long
  rw [byteLength_slashed_join]
  decide

/-- From a name below the path with slashes, the inner project is found without them. -/
theorem locate_slashed_join (more : Nat) (log : List Log.Record) :
    (locate ((slashed more).join ⟨"x"⟩) : Action (StateM Workspace) Path).run ⟨nested, log⟩ =
      (.ok ⟨"/a"⟩, ⟨nested, log⟩) := by
  obtain ⟨htrimmed, -⟩ := trimmed_slashed more
  refine locate_eq_ok_iff.2 (nearest_iff.2 ?_)
  rw [ancestors, List.find?_cons_of_neg (by simp [isMarked_nested_below]),
    parents_join _ (by decide) (by decide), htrimmed,
    List.find?_cons_of_pos isMarked_nested_inner]

/-- A setting in the inner project in which the reader of settings names the directory that the
program runs in. -/
def inNested : Setting where
  directory := ⟨"/a"⟩
  language := .english
  explanations := ⟨fun directory => some ("refused in " ++ directory.text), fun _ _ => none⟩

/-- The inner project has no links and stays the one found there. -/
theorem steady_nested : Steady ⟨"/a"⟩ ⟨"/a"⟩ ["a"] {} nested where
  plain :=
    { rooted := FileTree.rooted_of_entries (by decide)
      reaches := ⟨_, reaches_nested_inner⟩
      directory := fun kind => .inl (by cases kind <;> decide)
      aggregator := fun kind => .inl (by cases kind <;> decide) }
  settled := ⟨⟨[], [⟨"/"⟩], by decide, by simp⟩, isMarked_nested_inner⟩
  marked := ⟨[], "", entry?_nested_inner, by decide, by decide⟩
  short := short_marker (by decide)

theorem run_nested :
    ((Make.makeProduct.1.run { inNested with directory := ⟨"/a"⟩ } : StateM Workspace Report)
        ⟨nested, []⟩).1.outcome =
      .success ((⟨"/a"⟩ : Path).join (ArtifactKind.path .model Make.productRequest.entity)) :=
  Make.run_success steady_nested.plain { inNested with directory := ⟨"/a"⟩ } steady_nested.found rfl
    Make.spells_makeProduct (ArtifactKind.fits_of_short (by decide) (by decide)) (by decide)

/-- In the inner project, told with a slash at its end, and in a directory below. A command that
succeeds tells the same there, whatever the reader of settings would say. -/
theorem locate_nearest_nested :
    (locate ((⟨"/a/"⟩ : Path).join ⟨"x"⟩) : Action (StateM Workspace) Path).run ⟨nested, []⟩ =
        (.ok ⟨"/a"⟩, ⟨nested, []⟩) ∧
      (Make.makeProduct.1.run { inNested with directory := ⟨"/a"⟩ } : StateM Workspace Report)
          ⟨nested, []⟩ =
        (Make.makeProduct.1.run { inNested with directory := (⟨"/a/"⟩ : Path).join ⟨"x"⟩ } :
          StateM Workspace Report) ⟨nested, []⟩ := by
  obtain ⟨-, hjoin, hsame⟩ := locate_nearest ⟨nested, []⟩
  have hslash : slashed 0 = ⟨"/a/"⟩ := rfl
  have hshort : byteLength ((slashed 0).join marker).text ≤ FileTree.pathLimit := by
    rw [byteLength_slashed_join]
    decide
  have hbelow := hjoin (slashed 0) (slashed 0) "x" (by decide) (by decide)
    (isMarked_nested_below 0) (.inr hshort) (locate_eq_ok_iff.2 (.here isMarked_nested_slashed))
  rw [(trimmed_slashed 0).1] at hbelow
  rw [← hslash]
  have hruns := hsame ⟨"/a"⟩ _ ⟨"/a"⟩ (locate_eq_ok_iff.2 (.here isMarked_nested_inner)) hbelow.1
    Make.makeProduct.1 inNested
  exact ⟨hbelow.1, hruns.2.2 (.inl fun message ho => nomatch run_nested.symm.trans ho)⟩

/-! ### A project whose settings are refused -/

/-- A project in the directory `a`, the marker file of which is an object that does not end. -/
def unended : FileTree :=
  ⟨[(["x", "a"], .directory), (["oryum.json", "a"], .file (encode "\x7b")), (["a"], .directory)]⟩

/-- What the reader of settings says of the marker file where it calls it by `name`: the object
breaks off. -/
def refusal (name : String) : String :=
  "EOF while parsing an object at line 1 column 1 in " ++ name ++ " JSON file"

/-- A setting in the project in which the reader of settings calls the marker file by its path from
the directory that the program runs in. -/
def inUnended : Setting where
  directory := ⟨"/a"⟩
  language := .english
  explanations :=
    ⟨fun directory => some (refusal (if directory = ⟨"/a"⟩ then "oryum.json" else "../oryum.json")),
      fun _ _ => none⟩

theorem reaches_unended : unended.Reaches ⟨"/a"⟩ FileTree.linkLimit ["a"] :=
  FileTree.reaches_of_steps (by decide) (by decide) (by decide) (by decide) rfl

theorem nearest_unended : Nearest unended ⟨"/a"⟩ ⟨"/a"⟩ ∧ Nearest unended ⟨"/a/x"⟩ ⟨"/a"⟩ := by
  have hmarked : isMarked unended ⟨"/a"⟩ = true :=
    isMarked_of_file reaches_unended rfl (short_marker (by decide))
  have hjoin : (⟨"/a"⟩ : Path).join ⟨"x"⟩ = ⟨"/a/x"⟩ := by decide
  have hunmarked : isMarked unended ⟨"/a/x"⟩ = false := by
    rw [← hjoin]
    exact isMarked_of_missing (reaches_unended.join (by decide) (by decide) rfl) rfl
  have hancestors : (⟨"/a/x"⟩ : Path).ancestors = [⟨"/a/x"⟩, ⟨"/a"⟩, ⟨"/"⟩] := by decide
  refine ⟨.here hmarked, nearest_iff.2 ?_⟩
  rw [hancestors, List.find?_cons_of_neg (by simp [hunmarked]), List.find?_cons_of_pos hmarked]

theorem ofText?_unended : Settings.ofText? "\x7b" = none := by
  have htokens : Json.Token.ofChars? "\x7b".toList = some [.openObject] := by
    have hlist : "\x7b".toList = ['\x7b'] := by decide
    rw [hlist, @Json.Token.ofChars?_next '\x7b' [] _ _ rfl rfl, Remainder.val_all,
      Json.Token.ofChars?]
    rfl
  have hvalue : Json.value? Json.nestingLimit [.openObject] = none := by
    simp [Json.value?, Json.members?, Json.nestingLimit]
  have hjson : Json.ofChars? "\x7b".toList = none := by
    simp only [Json.ofChars?, htokens, hvalue, Option.bind_eq_bind, Option.bind_some]
  have hblank : isBlankText "\x7b" = false := by decide
  rw [Settings.ofText?, hblank, hjson]
  rfl

theorem outcome_unended {start : Path} (h : Nearest unended start ⟨"/a"⟩) :
    ((Make.makeProduct.1.run { inUnended with directory := start } : StateM Workspace Report)
        ⟨unended, []⟩).1.outcome =
      .failure .settings ({ inUnended with directory := start }.message .settings) := by
  have hlocated : (locate start : Action (StateM Workspace) Path).run ⟨unended, []⟩ =
      (.ok ⟨"/a"⟩, ⟨unended, []⟩) := locate_eq_ok_iff.2 h
  have hentry : unended.entry? [marker.text, "a"] = some (.file (encode "\x7b")) := by decide
  have hread := FileTree.read_name reaches_unended isName_marker (by decide)
    (short_marker (by decide)) hentry
  have hprepared : Make.makeProduct.1.prepared start ⟨unended, []⟩ =
      .error (.validatingContext, .settings) :=
    Make.prepared_of_settings_refused (congrArg Prod.fst hlocated) hread (decode?_encode _)
      ofText?_unended
  have hruns := Make.runs_of_run Make.makeProduct.1 { inUnended with directory := start }
    ⟨unended, []⟩
  rw [(hruns.eq_of_unprepared hprepared).1]
  rfl

/-- A directory below can be nearer to a project than the directory itself. With thousands of
slashes at its end the path of the inner project is too long for its marker file, and from there the
outer project is found; from a name below, where the way up leads through the path without the
slashes, it is the inner one. One slash suffices for the root to be told by another text. And where
the settings of a project are refused, two directories of it can be told apart by what their reader
calls the marker file. -/
theorem locate_deep :
    ((locate (slashed 4089) : Action (StateM Workspace) Path).run ⟨nested, []⟩ =
        (.ok ⟨"/"⟩, ⟨nested, []⟩) ∧
      nested.isFile (((slashed 4089).join ⟨"x"⟩).join marker) = false ∧
      (locate ((slashed 4089).join ⟨"x"⟩) : Action (StateM Workspace) Path).run ⟨nested, []⟩ =
        (.ok ⟨"/a"⟩, ⟨nested, []⟩)) ∧
    ((locate ⟨"/a/"⟩ : Action (StateM Workspace) Path).run ⟨nested, []⟩ =
        (.ok ⟨"/a/"⟩, ⟨nested, []⟩) ∧
      nested.isFile (((⟨"/a/"⟩ : Path).join ⟨"x"⟩).join marker) = false ∧
      (locate ((⟨"/a/"⟩ : Path).join ⟨"x"⟩) : Action (StateM Workspace) Path).run ⟨nested, []⟩ =
        (.ok ⟨"/a"⟩, ⟨nested, []⟩)) ∧
    (locate ⟨"/a"⟩ : Action (StateM Workspace) Path).run ⟨unended, []⟩ =
        (.ok ⟨"/a"⟩, ⟨unended, []⟩) ∧
      (locate ⟨"/a/x"⟩ : Action (StateM Workspace) Path).run ⟨unended, []⟩ =
        (.ok ⟨"/a"⟩, ⟨unended, []⟩) ∧
      ((Make.makeProduct.1.run { inUnended with directory := ⟨"/a"⟩ } : StateM Workspace Report)
          ⟨unended, []⟩).1.outcome =
        .failure .settings ("invalid project configuration: " ++ refusal "oryum.json") ∧
      ((Make.makeProduct.1.run { inUnended with directory := ⟨"/a/x"⟩ } : StateM Workspace Report)
          ⟨unended, []⟩).1.outcome =
        .failure .settings ("invalid project configuration: " ++ refusal "../oryum.json") := by
  obtain ⟨-, hparents⟩ := trimmed_slashed 4089
  have hlong : Nearest nested (slashed 4089) ⟨"/"⟩ := by
    refine nearest_iff.2 ?_
    rw [ancestors, List.find?_cons_of_neg (by simp [isMarked_nested_slashed_long]), hparents,
      List.find?_cons_of_pos isMarked_nested_root]
  have hslash : slashed 0 = ⟨"/a/"⟩ := rfl
  obtain ⟨hhere, hbelow⟩ := nearest_unended
  rw [← hslash]
  exact ⟨⟨locate_eq_ok_iff.2 hlong, isMarked_nested_below 4089, locate_slashed_join 4089 []⟩,
    ⟨locate_eq_ok_iff.2 (.here isMarked_nested_slashed), isMarked_nested_below 0,
      locate_slashed_join 0 []⟩,
    locate_eq_ok_iff.2 hhere, locate_eq_ok_iff.2 hbelow, (outcome_unended hhere).trans (by decide),
    (outcome_unended hbelow).trans (by decide)⟩

end Project

end Groundwork
