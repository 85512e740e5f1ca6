import Groundwork.Proofs.Files.Contents
import Groundwork.Proofs.Path.Parents

/-!
# Paths into nothing

A directory can be made where a path comes to a gap: the steps before it lead to a directory, and
there the next name is free (`FileTree.Gap`, `Rooted.exists_gap`). What is behind the gap is made
along with it, and links have no part in this. So if no step behind the gap leads up, the path ends
below the gap, in a place where nothing was before (`Gap.location_of_resolve`,
`Gap.entry?_under`); and what is made on the way there is a directory where the steps up to it say
(`Gap.extendsIn_makeDirectory`), so this place stays free. A directory that is made along with those
above it is then new and empty (`Rooted.holds_of_makeDirectories`).
-/

namespace Groundwork.FileTree

open Text Groundwork.Path

variable {t t' t'' : FileTree} {purpose : Purpose} {links : Nat} {here : Location}
  {steps more init rest : List String} {first : String} {p q : Path}

/-! ## Going down -/

/-- Where steps lead from a directory if they only go down and no link is on the way. -/
def under (here : Location) (steps : List String) : Location :=
  (steps.filter (· != ".")).reverse ++ here

theorem under_point : under here ("." :: steps) = under here steps := by
  simp [under]

theorem under_cons (h : first ≠ ".") :
    under here (first :: steps) = under (first :: here) steps := by
  simp [under, h]

/-- More steps lead further down, unless they are points. -/
theorem length_under_lt (h : ∃ s ∈ more, s ≠ ".") :
    (under here steps).length < (under here (steps ++ more)).length := by
  obtain ⟨s, hs, hne⟩ := h
  have hpos : 0 < (more.filter (· != ".")).length :=
    List.length_pos_of_mem (List.mem_filter.2 ⟨hs, by simpa using hne⟩)
  simp only [under, List.filter_append, List.length_append, List.length_reverse]
  omega

/-- A walk that only goes down and meets no link ends where its steps say. -/
theorem location_of_walk {slash : Bool} {place : Place} (hup : ".." ∉ steps)
    (hlinks : ∀ location, location <:+ under here steps → here.length < location.length →
      ∀ target, t.entry? location ≠ some (.link target))
    (h : t.walk purpose links here steps slash = .ok place) :
    place.location = under here steps := by
  -- the cases that go on in a directory, then the link, which is excluded, then the ends
  fun_induction walk t purpose links here steps slash
  case case1 =>
    cases h
    rfl
  case case2 ih =>
    rw [under_point] at hlinks ⊢
    exact ih (fun hm => hup (List.mem_cons_of_mem _ hm)) hlinks h
  case case3 => exact absurd List.mem_cons_self hup
  case case11 hdot _ _ _ _ _ ih =>
    rw [under_cons hdot] at hlinks ⊢
    refine ih (fun hm => hup (List.mem_cons_of_mem _ hm)) (fun location hs hl => ?_) h
    exact hlinks location hs (Nat.lt_of_succ_lt hl)
  case case14 hdot _ _ _ target he _ _ _ =>
    rw [under_cons hdot] at hlinks
    exact absurd he (hlinks _ (List.suffix_append _ _) (Nat.lt_succ_self _) target)
  case case12 hdot _ _ _ _ _ hend =>
    obtain ⟨hend, -⟩ := Bool.and_eq_true_iff.1 hend
    cases h
    rw [List.isEmpty_iff.1 hend, under_cons hdot]
    rfl
  case case6 hdot _ _ _ _ hend | case8 hdot _ _ _ _ _ hend | case10 hdot _ _ _ _ hend =>
    cases h
    rw [List.isEmpty_iff.1 hend, under_cons hdot]
    rfl
  all_goals cases h

/-! ## Directories -/

/-- A directory is made where a path leads to nothing. -/
theorem free_of_makeDirectory (h : t.makeDirectory p = .ok t') :
    ∃ location slash, t.resolve .put p = .ok ⟨location, none, slash⟩ ∧
      t' = t.put location .directory := by
  obtain ⟨place, hres, hnone, rfl⟩ := makeDirectory_cases h
  refine ⟨place.location, place.slash, ?_, rfl⟩
  rw [hres, ← hnone, ← entry_of_resolve hres]

theorem has_of_isDirectory (h : t.isDirectory p = true) : t.has p = true := by
  rw [isDirectory] at h
  split at h
  · next hfound =>
    rw [has, hfound]
    rfl
  · cases h

theorem Extends.entry?_eq_none {location : Location} (he : t.Extends t')
    (h : t'.entry? location = none) : t.entry? location = none :=
  Option.eq_none_iff_forall_ne_some.2 fun entry hentry => by
    cases (he location entry hentry).symm.trans h

/-! ## Gaps -/

/-- The steps before `first` lead to the directory `here`, where nothing is called `first`. -/
structure Gap (t : FileTree) (steps init : List String) (first : String) (rest : List String)
    (links : Nat) (here : Location) : Prop where
  steps_eq : steps = init ++ first :: rest
  descends : t.descend linkLimit [] init = .ok (links, here)
  free : t.entry? (first :: here) = none
  ne_point : first ≠ "."
  ne_points : first ≠ ".."
  short : byteLength first ≤ nameLimit

/-- Where an entry could be put the last step is a gap. -/
theorem Rooted.exists_gap (hr : t.Rooted) {place : Location} {slash : Bool}
    (h : t.resolve .put p = .ok ⟨place, none, slash⟩) :
    ∃ init first links here, t.Gap p.steps init first [] links here := by
  obtain ⟨-, -, -, hwalk⟩ := resolve_eq_ok_iff.1 h
  rcases List.eq_nil_or_concat p.steps with hnil | ⟨init, first, hsteps⟩
  · rw [hnil, walk] at hwalk
    cases hwalk
  · rw [List.concat_eq_append] at hsteps
    rw [hsteps, walk_append _ _ _ _ _ _ (List.cons_ne_nil _ _)] at hwalk
    split at hwalk
    · next links here hd =>
      have hdirectory := hr.directory_of_descend rfl hd
      have hpoint : first ≠ "." := by
        rintro rfl
        rw [walk_points (by simp), hdirectory] at hwalk
        cases hwalk
      have hpoints : first ≠ ".." := by
        rintro rfl
        rw [walk, if_neg (by decide), if_pos rfl, walk, hr.directory_tail hdirectory] at hwalk
        cases hwalk
      have hshort : ¬nameLimit < byteLength first := by
        intro hlong
        rw [walk, if_neg hpoint, if_neg hpoints] at hwalk
        simp [hlong, Purpose.namesFile] at hwalk
      have hfree : t.entry? (first :: here) = none := by
        rw [walk_cons hpoint hpoints (by simp [Purpose.namesFile]) hshort] at hwalk
        rcases he : t.entry? (first :: here) with _ | entry
        · rfl
        · rw [he] at hwalk
          cases entry <;> simp [Purpose.follows] at hwalk
      exact ⟨init, first, links, here, hsteps, hd, hfree, hpoint, hpoints, Nat.not_lt.1 hshort⟩
    · cases hwalk

/-- Since a tree has become another one, a directory or file may have been made, but no link. -/
def Linkless (t t' : FileTree) : Prop :=
  ∀ location target, t'.entry? location = some (.link target) →
    t.entry? location = some (.link target)

theorem linkless_put {location : Location} {entry : Entry} (hl : ∀ target, entry ≠ .link target) :
    t.Linkless (t.put location entry) := by
  intro other target h
  by_cases ho : other = location
  · subst ho
    rcases other with _ | ⟨name, above⟩
    · cases h
    · rw [entry?_put_self (List.cons_ne_nil _ _)] at h
      exact absurd (Option.some.inj h) (hl target)
  · rwa [entry?_put_of_ne ho] at h

instance : AllowsAdding Linkless where
  refl _ _ _ h := h
  trans _ _ _ h h' location target he := h location target (h' location target he)
  of_makeDirectory h := by
    obtain ⟨place, -, -, rfl⟩ := makeDirectory_cases h
    exact linkless_put nofun
  of_create h := by
    obtain ⟨place, -, -, rfl⟩ := create_cases h
    exact linkless_put nofun

namespace Gap

variable (h : t.Gap steps init first rest links here)

include h

/-- There is nothing in the place that the steps lead to behind the gap, nor on the way to it. -/
theorem entry?_below (hr : t.Rooted) (location : Location) :
    t.entry? (location ++ first :: here) = none :=
  hr.entry?_append h.free location

theorem under_eq : ∃ location, under here (first :: rest) = location ++ first :: here :=
  ⟨(rest.filter (· != ".")).reverse, by simp [under, h.ne_point]⟩

theorem entry?_under (hr : t.Rooted) : t.entry? (under here (first :: rest)) = none := by
  obtain ⟨location, hl⟩ := h.under_eq
  rw [hl]
  exact h.entry?_below hr location

/-- Steps behind a gap lead where they say, whatever directories and files have been made. -/
theorem location_of_resolve (hr : t.Rooted) (hup : ".." ∉ rest) (he : t.Extends t')
    (hl : t.Linkless t') {q : Path} (hq : q.steps = steps) {place : Place}
    (hres : t'.resolve purpose q = .ok place) : place.location = under here (first :: rest) := by
  have hgrows : t.Grows (fun _ _ => True) t' := he.grows
  obtain ⟨-, -, -, hwalk⟩ := resolve_eq_ok_iff.1 hres
  rw [hq, h.steps_eq, walk_append _ _ _ _ _ _ (List.cons_ne_nil _ _),
    descend_of_grows hgrows h.descends] at hwalk
  refine location_of_walk ?_ (fun location hs hlong target htarget => ?_) hwalk
  · rw [List.mem_cons, not_or]
    exact ⟨h.ne_points.symm, hup⟩
  · obtain ⟨front, hfront⟩ := h.under_eq
    have hsuffix : first :: here <:+ location :=
      List.suffix_of_suffix_length_le (hfront ▸ List.suffix_append _ _) hs hlong
    obtain ⟨below, rfl⟩ := hsuffix
    cases (hl _ _ htarget).symm.trans (h.entry?_below hr below)

end Gap

/-! ## Making the directories above -/

variable {P : Location → Prop}

/-- A rooted tree has come of `t` by making directories in places that have a property. -/
structure ExtendsIn (t : FileTree) (P : Location → Prop) (t' : FileTree) : Prop where
  rooted : t'.Rooted
  extension : t.Extends t'
  made : ∀ location entry, t'.entry? location = some entry →
    t.entry? location = some entry ∨ entry = .directory ∧ P location

theorem Rooted.extendsIn (hr : t.Rooted) (P : Location → Prop) : t.ExtendsIn P t where
  rooted := hr
  extension := .refl t
  made _ _ h := .inl h

theorem ExtendsIn.linkless (h : t.ExtendsIn P t') : t.Linkless t' := by
  intro location target he
  obtain hold | ⟨hentry, -⟩ := h.made location _ he
  · exact hold
  · cases hentry

/-- A directory can be made in a place that has the property. -/
theorem ExtendsIn.makeDirectory {place : Place} (h : t.ExtendsIn P t')
    (hres : t'.resolve .put q = .ok place) (hP : P place.location)
    (hm : t'.makeDirectory q = .ok t'') : t.ExtendsIn P t'' := by
  obtain ⟨place', hres', hnone, rfl⟩ := makeDirectory_cases hm
  obtain rfl : place' = place := Except.ok.inj (hres'.symm.trans hres)
  refine ⟨h.rooted.makeDirectory hm, h.extension.trans (extends_put hnone _),
    fun location entry he => ?_⟩
  by_cases hl : location = place'.location
  · subst hl
    rw [entry?_put_self (ne_nil_of_entry?_eq_none hnone)] at he
    exact .inr ⟨(Option.some.inj he).symm, hP⟩
  · rw [entry?_put_of_ne hl] at he
    exact h.made location entry he

namespace Gap

variable (h : t.Gap steps init first rest links here)

include h

/-- Where some of the first steps lead up to the gap, nothing can be put. -/
theorem not_gap_of_prefix (he : t.Extends t') {front : List String} (hf : front <+: init)
    {init' : List String} {first' : String} {links' : Nat} {here' : Location} :
    ¬ t'.Gap front init' first' [] links' here' := by
  intro h'
  obtain ⟨back, rfl⟩ := hf
  have hgrows : t.Grows (fun _ _ => True) t' := he.grows
  have hd := descend_of_grows hgrows h.descends
  rw [descend_append, h'.steps_eq, descend_append, h'.descends] at hd
  have hlong := Nat.not_lt.2 h'.short
  simp only [descend, if_neg h'.ne_point, if_neg h'.ne_points, if_neg hlong, h'.free] at hd
  cases hd

/-- A directory on the way that the steps say is made where the steps up to it lead. -/
theorem extendsIn_makeDirectory (hr : t.Rooted) (hup : ".." ∉ rest) {extra : List String}
    (hq : steps = q.steps ++ extra)
    (hP : ∀ front, rest = front ++ extra → P (under here (first :: front)))
    (ht : t.ExtendsIn P t') (hm : t'.makeDirectory q = .ok t'') : t.ExtendsIn P t'' := by
  obtain ⟨location, slash, hres, -⟩ := free_of_makeDirectory hm
  refine ht.makeDirectory hres ?_ hm
  obtain ⟨init', first', links', here', hgap⟩ := ht.rooted.exists_gap hres
  -- a path that ends before the gap leads to what is there, one that ends behind it goes up no more
  have hsteps := h.steps_eq
  rw [hq, List.append_eq_append_iff] at hsteps
  obtain ⟨back, hinit, -⟩ | ⟨tail, hfront, htail⟩ := hsteps
  · exact absurd hgap (h.not_gap_of_prefix ht.extension ⟨back, hinit.symm⟩)
  · rcases tail with _ | ⟨s, r⟩
    · rw [List.append_nil] at hfront
      exact absurd hgap (h.not_gap_of_prefix ht.extension ⟨[], by rw [hfront, List.append_nil]⟩)
    · obtain ⟨rfl, rfl⟩ := List.cons.inj htail
      have hgap' : t.Gap q.steps init first r links here :=
        ⟨hfront, h.descends, h.free, h.ne_point, h.ne_points, h.short⟩
      have hup' : ".." ∉ r := fun hm => hup (List.mem_append_left _ hm)
      obtain rfl : location = under here (first :: r) :=
        hgap'.location_of_resolve hr hup' ht.extension ht.linkless rfl hres
      exact hP r rfl

/-- The place behind the gap is too deep for what has been made in places that are less deep. -/
theorem isDirectory_of_extendsIn (hr : t.Rooted) (hup : ".." ∉ rest) (hq : q.steps = steps)
    (ht : t.ExtendsIn (·.length < (under here (first :: rest)).length) t') :
    t'.isDirectory q = false := by
  refine Bool.eq_false_iff.2 fun hd => ?_
  obtain ⟨place, hres, he⟩ := resolve_of_isDirectory hd
  have hplace := h.location_of_resolve hr hup ht.extension ht.linkless hq hres
  obtain hold | ⟨-, hlt⟩ := ht.made place.location .directory he
  · rw [hplace, h.entry?_under hr] at hold
    cases hold
  · rw [hplace] at hlt
    exact absurd hlt (Nat.lt_irrefl _)

end Gap

/-- No step of a path leads up behind a gap. -/
def NoUpFromMissing (t : FileTree) (p : Path) : Prop :=
  ∀ init first rest links here, t.Gap p.steps init first rest links here → ".." ∉ rest

/-- A path without steps that lead up does not lead up behind a gap. -/
theorem noUpFromMissing (t : FileTree) (hup : ".." ∉ p.steps) : t.NoUpFromMissing p := by
  intro init first rest links here hgap hm
  rw [hgap.steps_eq] at hup
  exact hup (List.mem_append_right _ (List.mem_cons_of_mem _ hm))

/-- A path has a gap if a directory can be made at it or above it. -/
theorem Rooted.exists_gap_of_makeDirectory (hr : t.Rooted) (hq : q ∈ p.ancestors)
    (hm : t.makeDirectory q = .ok t') :
    ∃ init first rest links here, t.Gap p.steps init first rest links here := by
  obtain ⟨location, slash, hres, -⟩ := free_of_makeDirectory hm
  obtain ⟨init, first, links, here, hgap⟩ := hr.exists_gap hres
  obtain ⟨extra, hsteps⟩ := steps_of_mem_ancestors hq
  refine ⟨init, first, extra, links, here, ?_, hgap.descends, hgap.free, hgap.ne_point,
    hgap.ne_points, hgap.short⟩
  rw [hsteps, hgap.steps_eq, List.append_assoc]
  rfl

end Groundwork.FileTree

namespace Groundwork

open Text Groundwork.Path Workspace FileTree

variable {w w' : Workspace} {p : Path} {name : String}

/-! ## Making a directory last -/

namespace Workspace

/-- Making directories one after the other and then one more. -/
theorem settleAll_concat {ps : List Path} {p : Path}
    (h : (FileStore.settleAll (ps ++ [p]) : StateM Workspace (Except FileError Unit)) w =
      (.ok (), w')) :
    ∃ w₁, (FileStore.settleAll ps : StateM Workspace (Except FileError Unit)) w = (.ok (), w₁) ∧
      (FileStore.settleDirectory p : StateM Workspace (Except FileError Unit)) w₁ =
        (.ok (), w') := by
  induction ps generalizing w with
  | nil =>
    refine ⟨w, rfl, ?_⟩
    simp only [List.nil_append, FileStore.settleAll, bind, StateT.bind] at h
    rcases hs : (FileStore.settleDirectory p : StateM Workspace (Except FileError Unit)) w with
      ⟨e | u, w₁⟩
    · rw [hs] at h
      cases h
    · rw [hs] at h
      exact h
  | cons q ps ih =>
    simp only [List.cons_append, FileStore.settleAll, bind, StateT.bind] at h ⊢
    rcases hs : (FileStore.settleDirectory q : StateM Workspace (Except FileError Unit)) w with
      ⟨e | u, w₁⟩
    · rw [hs] at h
      cases h
    · rw [hs] at h
      exact ih h

/-- What cannot be settled leaves everything as it is. -/
theorem eq_of_settleDirectory_error {p : Path} {e : FileError}
    (h : (FileStore.settleDirectory p : StateM Workspace (Except FileError Unit)) w =
      (.error e, w')) : w' = w := by
  rw [run_settleDirectory] at h
  split at h
  · cases h
  · exact (Prod.mk.inj h).2.symm

/-- A directory that has been made with those above it has been settled last, when those above it
had been seen to. -/
theorem settled_of_makeDirectories {R : FileTree → FileTree → Prop} [IsPreorder FileTree R]
    (hp : p.text ≠ "")
    (hparents : ∀ q ∈ p.parents,
      Keeps R (FileStore.makeDirectory q : StateM Workspace (Except FileError Unit)))
    (h : (FileStore.makeDirectories p : StateM Workspace (Except FileError Unit)) w =
      (.ok (), w')) :
    ∃ w₁ : Workspace, R w.files w₁.files ∧
      (FileStore.settleDirectory p : StateM Workspace (Except FileError Unit)) w₁ =
        (.ok (), w') := by
  simp only [FileStore.makeDirectories, Path.ancestors, bind, StateT.bind, run_climb hp] at h
  rcases hs : (FileStore.settleDirectory p : StateM Workspace (Except FileError Unit)) w with
    ⟨e | u, w₁⟩
  · obtain rfl : w₁ = w := eq_of_settleDirectory_error hs
    cases e
    case notFound =>
      rcases hc : (FileStore.climb p.parents : StateM Workspace (Except FileError (List Path))) w₁
        with ⟨e | passed, w₂⟩
      · simp only [hs, hc] at h
        cases h
      · have hclimb := keeps_climb hparents w₁
        simp only [hs, hc, Except.map, List.reverse_cons] at h hclimb
        obtain ⟨w₃, hall, hlast⟩ := settleAll_concat h
        have hpassed : ∀ q ∈ passed.reverse, Keeps R
            (FileStore.makeDirectory q : StateM Workspace (Except FileError Unit)) :=
          fun q hq => hparents q (subset_of_climb hc (List.mem_reverse.1 hq))
        have hkeeps := keeps_settleAll hpassed w₂
        rw [hall] at hkeeps
        exact ⟨w₃, trans_of R hclimb hkeeps, hlast⟩
    all_goals
      rw [hs] at h
      cases h
  · rw [hs] at h
    exact ⟨w, refl_of R w.files, hs.trans h⟩

end Workspace

/-! ## Making a directory behind a gap -/

/-- Nothing is made on the way to a path without a gap. -/
theorem FileTree.Rooted.keeps_makeDirectory {t : FileTree} (hr : t.Rooted)
    (hno : ∀ init first rest links here, ¬ t.Gap p.steps init first rest links here) {q : Path}
    (hq : q ∈ p.ancestors) :
    Keeps (Preserves (· = t))
      (FileStore.makeDirectory q : StateM Workspace (Except FileError Unit)) := by
  refine keeps_change fun t₁ t₂ hm ht => ?_
  rw [ht] at hm
  obtain ⟨init, first, rest, links, here, hgap⟩ := hr.exists_gap_of_makeDirectory hq hm
  exact absurd hgap (hno init first rest links here)

/-- A directory that has been settled where none was is new and empty. -/
theorem FileTree.Rooted.holds_of_settleDirectory (hr : w.files.Rooted)
    (hf : p.fileName? = some name) (hno : w.files.isDirectory p = false)
    (h : (FileStore.settleDirectory p : StateM Workspace (Except FileError Unit)) w =
      (.ok (), w')) :
    ∃ above links here, w'.files.Awaits p name above links here ∧
      w'.files.Holds (name :: here) [] ∧ w.files.entry? (name :: here) = none := by
  rw [run_settleDirectory] at h
  split at h
  · next t hm =>
    obtain ⟨-, rfl⟩ := Prod.mk.inj h
    obtain ⟨location, slash, hres, rfl⟩ := free_of_makeDirectory hm
    have hnone : w.files.entry? location = none := (entry_of_resolve hres).symm
    obtain ⟨above, links, here, rfl, ha⟩ := hr.exists_awaits hres hf
    exact ⟨above, links, here, ha.of_extends (extends_put hnone _), hr.holds_put hnone, hnone⟩
  · simp only [hno, Bool.false_eq_true, and_false, if_false] at h
    cases h

/-- Before a directory is settled, what is made above it does not make the path lead to a
directory, unless the path leads up from where nothing was. -/
theorem FileTree.Rooted.exists_settled (hr : w.files.Rooted) (hup : w.files.NoUpFromMissing p)
    (hf : p.fileName? = some name) (hno : w.files.has p = false)
    (h : (FileStore.makeDirectories p : StateM Workspace (Except FileError Unit)) w =
      (.ok (), w')) :
    ∃ w₁ : Workspace, w.files.Extends w₁.files ∧ w₁.files.Rooted ∧
      w₁.files.isDirectory p = false ∧
      (FileStore.settleDirectory p : StateM Workspace (Except FileError Unit)) w₁ =
        (.ok (), w') := by
  have hne : p.text ≠ "" := by
    intro he
    simp [Path.fileName?, he, segments, pieces, lead, isIdle] at hf
  by_cases hgap : ∃ init first rest links here, w.files.Gap p.steps init first rest links here
  · obtain ⟨init, first, rest, links, here, hgap⟩ := hgap
    have hrest := hup init first rest links here hgap
    have hparents : ∀ q ∈ p.parents,
        Keeps (Preserves (w.files.ExtendsIn (·.length < (under here (first :: rest)).length)))
          (FileStore.makeDirectory q : StateM Workspace (Except FileError Unit)) := by
      intro q hq
      obtain ⟨extra, hsteps, hextra⟩ := steps_of_mem_parents hf hq
      refine keeps_change fun t t' hm ht =>
        hgap.extendsIn_makeDirectory hr hrest hsteps (fun front hfront => ?_) ht hm
      rw [hfront]
      exact length_under_lt hextra
    obtain ⟨w₁, hkept, hlast⟩ := settled_of_makeDirectories hne hparents h
    have hw₁ := hkept (hr.extendsIn _)
    exact ⟨w₁, hw₁.extension, hw₁.rooted, hgap.isDirectory_of_extendsIn hr hrest rfl hw₁, hlast⟩
  · simp only [not_exists] at hgap
    obtain ⟨w₁, hkept, hlast⟩ := settled_of_makeDirectories hne
      (fun q hq => hr.keeps_makeDirectory hgap (List.mem_cons_of_mem _ hq)) h
    have hw₁ : w₁.files = w.files := hkept rfl
    refine ⟨w₁, hw₁ ▸ .refl _, hw₁ ▸ hr, ?_, hlast⟩
    rw [hw₁]
    refine Bool.eq_false_iff.2 fun hd => ?_
    cases hno.symm.trans (has_of_isDirectory hd)

/-- Where a path led to nothing, a directory that could be made with those above it is new and
empty, unless the path leads up from where nothing was. -/
theorem FileTree.Rooted.holds_of_makeDirectories (hr : w.files.Rooted)
    (hup : w.files.NoUpFromMissing p) (hf : p.fileName? = some name)
    (hno : w.files.has p = false)
    (h : (FileStore.makeDirectories p : StateM Workspace (Except FileError Unit)) w =
      (.ok (), w')) :
    ∃ above links here, w'.files.Awaits p name above links here ∧
      w'.files.Holds (name :: here) [] ∧ w.files.entry? (name :: here) = none := by
  obtain ⟨w₁, he, hr₁, hno₁, hlast⟩ := hr.exists_settled hup hf hno h
  obtain ⟨above, links, here, ha, hh, hnone⟩ := hr₁.holds_of_settleDirectory hf hno₁ hlast
  exact ⟨above, links, here, ha, hh, he.entry?_eq_none hnone⟩

end Groundwork
