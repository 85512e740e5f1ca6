import Groundwork.Files.Tree

/-!
# How file trees grow

No operation of a command takes an entry away, so a tree before a command and the tree after it are
compared entry by entry.

* `t.Extends t'`: what is in `t` is in `t'`, unchanged; `t'` may have more.
* `t.Grows allowed t'`: the same, save that a file may have become longer, by pieces that `allowed`
  admits at its place. A tree that extends another one grows from it whatever is allowed
  (`Extends.grows`).

Making a directory or creating a file puts an entry where nothing was (`makeDirectory_cases`,
`create_cases`), which extends the tree (`extends_put`), and appending makes one file longer
(`append_cases`). A walk that ends at an entry ends at the same place in a tree that has grown
(`walk_of_grows`): links are not changed, and nothing that it passed is gone. Nor does a walk that
fails for another cause than that something is missing ever succeed (`walk_error_of_grows`), so that
what a path leads to is decided in either case (`Decided.of_grows`).
-/

namespace Groundwork

/-- What may become of an entry: a file may have gained pieces that `allowed` admits, and the kind
of an entry and the target of a link stay as they are. -/
inductive Entry.Grows (allowed : List UInt8 → Prop) : Entry → Entry → Prop
  | file (bytes : List UInt8) (pieces : List (List UInt8)) (h : ∀ piece ∈ pieces, allowed piece) :
    Grows allowed (.file bytes) (.file (bytes ++ pieces.flatten))
  | directory : Grows allowed .directory .directory
  | link (target : Path) : Grows allowed (.link target) (.link target)

namespace Entry.Grows

variable {allowed allowed' : List UInt8 → Prop} {e e' e'' : Entry}

theorem refl (e : Entry) : e.Grows allowed e := by
  cases e with
  | file bytes => simpa using @Grows.file allowed bytes [] (by simp)
  | directory => exact .directory
  | link target => exact .link target

theorem trans (h : e.Grows allowed e') (h' : e'.Grows allowed e'') : e.Grows allowed e'' := by
  cases h with
  | file bytes pieces hp =>
    cases h' with
    | file _ pieces' hp' =>
      rw [List.append_assoc, ← List.flatten_append]
      refine .file bytes (pieces ++ pieces') fun piece hm => ?_
      rcases List.mem_append.1 hm with hm | hm
      · exact hp piece hm
      · exact hp' piece hm
  | directory => exact h'
  | link target => exact h'

theorem mono (h : ∀ piece, allowed piece → allowed' piece) (hg : e.Grows allowed e') :
    e.Grows allowed' e' := by
  cases hg with
  | file bytes pieces hp => exact .file bytes pieces fun piece hm => h piece (hp piece hm)
  | directory => exact .directory
  | link target => exact .link target

end Entry.Grows

namespace FileTree

variable {t t' t'' : FileTree} {p : Path} {bytes : List UInt8}

/-! ## Entries of a changed tree -/

@[simp] theorem entry?_root (t : FileTree) : t.entry? [] = some .directory := rfl

theorem ne_nil_of_entry?_eq_none {location : Location} (h : t.entry? location = none) :
    location ≠ [] := by
  rintro rfl
  simp at h

theorem entry?_put_self {location : Location} (h : location ≠ []) (entry : Entry) :
    FileTree.entry? (t.put location entry) location = some entry := by
  cases location with
  | nil => exact absurd rfl h
  | cons name above => simp [put, entry?]

theorem entry?_put_of_ne {location other : Location} (h : other ≠ location) (entry : Entry) :
    FileTree.entry? (t.put location entry) other = t.entry? other := by
  cases other with
  | nil => rfl
  | cons name above =>
    simp only [put, entry?, List.lookup_cons, beq_eq_false_iff_ne.2 h]
    induction t.entries with
    | nil => rfl
    | cons hd tl ih =>
      obtain ⟨place, e⟩ := hd
      by_cases hp : place = location
      · subst hp
        simp only [List.filter_cons, bne_self_eq_false, Bool.false_eq_true, if_false, ih,
          List.lookup_cons, beq_eq_false_iff_ne.2 h]
      · have hb : (place != location) = true := by simpa using hp
        simp only [List.filter_cons, hb, if_true, List.lookup_cons, ih]

/-! ## Extension and growth -/

/-- Everything in `t` is in `t'` as it is. -/
def Extends (t t' : FileTree) : Prop :=
  ∀ location entry, t.entry? location = some entry → t'.entry? location = some entry

/-- Everything in `t` is in `t'`, where a file may have gained pieces that are allowed at its
place. -/
def Grows (allowed : Location → List UInt8 → Prop) (t t' : FileTree) : Prop :=
  ∀ location entry, t.entry? location = some entry →
    ∃ entry', t'.entry? location = some entry' ∧ entry.Grows (allowed location) entry'

theorem Extends.refl (t : FileTree) : t.Extends t := fun _ _ h => h

theorem Extends.trans (h : t.Extends t') (h' : t'.Extends t'') : t.Extends t'' :=
  fun location entry he => h' location entry (h location entry he)

variable {allowed allowed' : Location → List UInt8 → Prop}

theorem Extends.grows (h : t.Extends t') : t.Grows allowed t' :=
  fun location entry he => ⟨entry, h location entry he, .refl entry⟩

theorem Grows.trans (h : t.Grows allowed t') (h' : t'.Grows allowed t'') : t.Grows allowed t'' := by
  intro location entry he
  obtain ⟨entry', he', hg⟩ := h location entry he
  obtain ⟨entry'', he'', hg'⟩ := h' location entry' he'
  exact ⟨entry'', he'', hg.trans hg'⟩

theorem Grows.mono (ha : ∀ location piece, allowed location piece → allowed' location piece)
    (h : t.Grows allowed t') : t.Grows allowed' t' := by
  intro location entry he
  obtain ⟨entry', he', hg⟩ := h location entry he
  exact ⟨entry', he', hg.mono (ha location)⟩

/-- Putting an entry where there is none takes nothing away. -/
theorem extends_put {location : Location} (h : t.entry? location = none) (entry : Entry) :
    t.Extends (t.put location entry) := by
  intro other e he
  rwa [entry?_put_of_ne]
  rintro rfl
  simp [h] at he

theorem grows_put_file {location : Location} (h : t.entry? location = some (.file bytes))
    {piece : List UInt8} (hp : allowed location piece) :
    t.Grows allowed (t.put location (.file (bytes ++ piece))) := by
  intro other e he
  by_cases ho : other = location
  · subst ho
    have hn : other ≠ [] := by
      rintro rfl
      simp at h
    obtain rfl : e = .file bytes := Option.some.inj (he.symm.trans h)
    have hgrows : (Entry.file bytes).Grows (allowed other) (.file (bytes ++ [piece].flatten)) :=
      .file bytes [piece] (by simpa using hp)
    exact ⟨_, entry?_put_self hn _, by simpa using hgrows⟩
  · exact ⟨e, by rwa [entry?_put_of_ne ho], .refl e⟩

/-! ## Walks -/

variable {purpose : Purpose} {place : Place}

/-- The step of a walk to a name that can be looked up. -/
theorem walk_cons {links : Nat} {here : Location} {step : String} {steps : List String}
    {slash : Bool} (hdot : ¬step = ".") (hup : ¬step = "..")
    (hfile : ¬(steps.isEmpty && slash && purpose.namesFile) = true)
    (hlong : ¬nameLimit < Text.byteLength step) :
    t.walk purpose links here (step :: steps) slash =
      match t.entry? (step :: here) with
      | none => if steps.isEmpty then .ok ⟨step :: here, none, slash⟩ else .error .notFound
      | some (.file bytes) =>
        if steps.isEmpty then .ok ⟨step :: here, some (.file bytes), slash⟩
        else .error .notADirectory
      | some .directory =>
        if steps.isEmpty then .ok ⟨step :: here, some .directory, slash⟩
        else t.walk purpose links (step :: here) steps slash
      | some (.link target) =>
        if steps.isEmpty && !purpose.follows then .ok ⟨step :: here, some (.link target), slash⟩
        else if links = 0 then .error .tooManyLinks
        else
          t.walk purpose (links - 1) (if target.isAbsolute then [] else here)
            (target.steps ++ steps) (slash || steps.isEmpty && target.endsWithSlash) := by
  cases he : t.entry? (step :: here) with
  | none => simp only [walk, if_neg hdot, if_neg hup, if_neg hfile, if_neg hlong, he]
  | some entry =>
    cases entry <;> simp only [walk, if_neg hdot, if_neg hup, if_neg hfile, if_neg hlong, he]

/-- A place and all places above it are directories, as they are on the way of a walk. -/
def IsTrail (t : FileTree) (here : Location) : Prop :=
  ∀ above, above <:+ here → t.entry? above = some .directory

theorem isTrail_root (t : FileTree) : t.IsTrail [] := by
  intro above ha
  rw [List.suffix_nil.1 ha]
  exact entry?_root t

theorem IsTrail.tail {here : Location} (h : t.IsTrail here) : t.IsTrail here.tail :=
  fun above ha => h above (ha.trans (List.tail_suffix here))

theorem IsTrail.cons {here : Location} {step : String} (h : t.IsTrail here)
    (hd : t.entry? (step :: here) = some .directory) : t.IsTrail (step :: here) := by
  intro above ha
  obtain rfl | ha := List.suffix_cons_iff.1 ha
  · exact hd
  · exact h above ha

/-- The walk along the target of a link begins at a trail. -/
theorem IsTrail.start {here : Location} (h : t.IsTrail here) (target : Path) :
    t.IsTrail (if target.isAbsolute then [] else here) := by
  split
  · exact isTrail_root t
  · exact h

/-- A walk tells what is at the place where it ends. -/
theorem entry_of_walk {links : Nat} {here : Location} {steps : List String} {slash : Bool}
    (h : t.walk purpose links here steps slash = .ok place) :
    place.entry = t.entry? place.location := by
  fun_induction walk t purpose links here steps slash <;> simp_all
  all_goals subst h; simp_all

theorem Grows.entry?_directory (hg : t.Grows allowed t') {location : Location}
    (h : t.entry? location = some .directory) : t'.entry? location = some .directory := by
  obtain ⟨e, he, hd⟩ := hg location _ h
  cases hd
  exact he

theorem Grows.entry?_link (hg : t.Grows allowed t') {location : Location} {target : Path}
    (h : t.entry? location = some (.link target)) : t'.entry? location = some (.link target) := by
  obtain ⟨e, he, hd⟩ := hg location _ h
  cases hd
  exact he

/-- A walk that ends at an entry ends at the same place in a tree that has grown. -/
theorem walk_of_grows (hg : t.Grows allowed t') {links : Nat} {here location : Location}
    {steps : List String} {slash s : Bool} {entry : Entry}
    (h : t.walk purpose links here steps slash = .ok ⟨location, some entry, s⟩) :
    ∃ entry', t'.walk purpose links here steps slash = .ok ⟨location, some entry', s⟩ ∧
      entry.Grows (allowed location) entry' := by
  fun_induction walk t purpose links here steps slash
  case case1 =>
    simp only [Except.ok.injEq, Place.mk.injEq] at h
    obtain ⟨rfl, he, rfl⟩ := h
    obtain ⟨entry', he', hd⟩ := hg _ _ he
    exact ⟨entry', by simp [walk, he'], hd⟩
  case case2 ih => simpa [walk] using ih h
  case case3 ih => simpa [walk] using ih h
  case case8 hdot hup hfile hlong bytes he hend =>
    -- the walk ends at a file, which may have become longer
    simp only [Except.ok.injEq, Place.mk.injEq, Option.some.injEq] at h
    obtain ⟨rfl, rfl, rfl⟩ := h
    obtain ⟨entry', he', hd⟩ := hg _ _ he
    cases hd with
    | file _ pieces hp =>
      refine ⟨_, ?_, .file bytes pieces hp⟩
      simp only [walk_cons hdot hup hfile hlong, he', hend, if_true]
  case case10 hdot hup hfile hlong he hend =>
    simp only [Except.ok.injEq, Place.mk.injEq, Option.some.injEq] at h
    obtain ⟨rfl, rfl, rfl⟩ := h
    refine ⟨_, ?_, .directory⟩
    simp only [walk_cons hdot hup hfile hlong, hg.entry?_directory he, hend, if_true]
  case case11 hdot hup hfile hlong he hend ih =>
    obtain ⟨entry', hw, hd⟩ := ih h
    refine ⟨entry', ?_, hd⟩
    simp only [walk_cons hdot hup hfile hlong, hg.entry?_directory he, if_neg hend, hw]
  case case12 hdot hup hfile hlong target he hend =>
    simp only [Except.ok.injEq, Place.mk.injEq, Option.some.injEq] at h
    obtain ⟨rfl, rfl, rfl⟩ := h
    refine ⟨_, ?_, .link target⟩
    simp only [walk_cons hdot hup hfile hlong, hg.entry?_link he, hend, if_true]
  case case14 hdot hup hfile hlong target he hend hl ih =>
    obtain ⟨entry', hw, hd⟩ := ih h
    refine ⟨entry', ?_, hd⟩
    simp only [dite_eq_ite] at hw
    simp only [walk_cons hdot hup hfile hlong, hg.entry?_link he, if_neg hend, if_neg hl, hw]
  all_goals simp at h

/-- A walk that is blocked is blocked in a tree that has grown, unless something was missing. -/
theorem walk_error_of_grows (hg : t.Grows allowed t') {links : Nat} {here : Location}
    {steps : List String} {slash : Bool} {cause : FileError} (hc : cause ≠ .notFound)
    (h : t.walk purpose links here steps slash = .error cause) :
    t'.walk purpose links here steps slash = .error cause := by
  fun_induction walk t purpose links here steps slash
  case case2 ih => simpa [walk] using ih h
  case case3 ih => simpa [walk] using ih h
  case case4 hdot hup hfile =>
    rw [walk, if_neg hdot, if_neg hup, if_pos hfile]
    exact h
  case case5 hdot hup hfile hlong =>
    rw [walk, if_neg hdot, if_neg hup, if_neg hfile, if_pos hlong]
    exact h
  case case7 => exact absurd (Except.error.inj h).symm hc
  case case9 hdot hup hfile hlong bytes he hend =>
    obtain ⟨entry', he', hd⟩ := hg _ _ he
    cases hd with
    | file _ pieces hp =>
      simp only [walk_cons hdot hup hfile hlong, he', if_neg hend]
      exact h
  case case11 hdot hup hfile hlong he hend ih =>
    simp only [walk_cons hdot hup hfile hlong, hg.entry?_directory he, if_neg hend]
    exact ih h
  case case13 slash here step steps hdot hup hfile hlong target he hend =>
    simp only [walk_cons hdot hup hfile hlong, hg.entry?_link he, if_neg hend]
    exact h
  case case14 hdot hup hfile hlong target he hend hl ih =>
    simp only [dite_eq_ite] at ih
    simp only [walk_cons hdot hup hfile hlong, hg.entry?_link he, if_neg hend, if_neg hl]
    exact ih h
  all_goals simp at h

theorem resolve_eq_ok_iff :
    t.resolve purpose p = .ok place ↔
      '\x00' ∉ p.text.toList ∧ p.text ≠ "" ∧ Text.byteLength p.text ≤ pathLimit ∧
        t.walk purpose linkLimit [] p.steps p.endsWithSlash = .ok place := by
  simp only [resolve, List.contains_iff_mem]
  split
  · simp_all
  · split
    · simp_all
    · split
      · simp; omega
      · simp_all

theorem entry_of_resolve (h : t.resolve purpose p = .ok place) :
    place.entry = t.entry? place.location :=
  entry_of_walk (resolve_eq_ok_iff.1 h).2.2.2

/-- A path that leads to an entry leads to the same place in a tree that has grown. -/
theorem resolve_of_grows (hg : t.Grows allowed t') {location : Location} {entry : Entry} {s : Bool}
    (h : t.resolve purpose p = .ok ⟨location, some entry, s⟩) :
    ∃ entry', t'.resolve purpose p = .ok ⟨location, some entry', s⟩ ∧
      entry.Grows (allowed location) entry' := by
  obtain ⟨h₀, h₁, h₂, hw⟩ := resolve_eq_ok_iff.1 h
  obtain ⟨entry', hw', hd⟩ := walk_of_grows hg hw
  exact ⟨entry', resolve_eq_ok_iff.2 ⟨h₀, h₁, h₂, hw'⟩, hd⟩

theorem resolve_error_of_grows (hg : t.Grows allowed t') {cause : FileError}
    (hc : cause ≠ .notFound) (h : t.resolve purpose p = .error cause) :
    t'.resolve purpose p = .error cause := by
  simp only [resolve] at h ⊢
  split
  · next hnull => rwa [if_pos hnull] at h
  · next hnull =>
    rw [if_neg hnull] at h
    split
    · next hempty => rwa [if_pos hempty] at h
    · next hempty =>
      rw [if_neg hempty] at h
      split
      · next hlong => rwa [if_pos hlong] at h
      · next hlong =>
        rw [if_neg hlong] at h
        exact walk_error_of_grows hg hc h

/-- What `p` leads to is decided: it leads to something, or it is blocked by something else than
that something is missing. -/
def Decided (t : FileTree) (p : Path) : Prop :=
  (∃ location entry slash, t.resolve .look p = .ok ⟨location, some entry, slash⟩) ∨
    ∃ cause, cause ≠ .notFound ∧ t.resolve .look p = .error cause

/-- Once it is decided what a path leads to, growing does not make a file of it or of anything else
there. -/
theorem Decided.of_grows (h : t.Decided p) (hg : t.Grows allowed t') :
    t'.Decided p ∧ t'.isFile p = t.isFile p := by
  obtain ⟨location, entry, slash, h⟩ | ⟨cause, hc, h⟩ := h
  · obtain ⟨entry', h', hentry⟩ := resolve_of_grows hg h
    refine ⟨.inl ⟨location, entry', slash, h'⟩, ?_⟩
    rw [isFile, isFile, find?, find?, h, h']
    cases hentry <;> cases slash <;> rfl
  · have h' := resolve_error_of_grows hg hc h
    exact ⟨.inr ⟨cause, hc, h'⟩, by rw [isFile, isFile, find?, find?, h, h']⟩

/-! ## Where paths lead -/

/-- There is something at the end of `p`, links followed, and it is at `location`. -/
def LeadsTo (t : FileTree) (p : Path) (location : Location) : Prop :=
  ∃ entry slash, t.resolve .look p = .ok ⟨location, some entry, slash⟩

theorem LeadsTo.of_grows {allowed : Location → List UInt8 → Prop} (hg : t.Grows allowed t')
    {location : Location} (h : t.LeadsTo p location) : t'.LeadsTo p location := by
  obtain ⟨entry, slash, h⟩ := h
  obtain ⟨entry', h', -⟩ := resolve_of_grows hg h
  exact ⟨entry', slash, h'⟩

/-- What can be appended to can be looked at: appending only asks more of the last name. -/
theorem walk_look_of_append {links : Nat} {here : Location} {steps : List String} {slash : Bool}
    {place : Place} (h : t.walk .append links here steps slash = .ok place) :
    t.walk .look links here steps slash = .ok place := by
  fun_induction walk t .append links here steps slash
  case case1 => simpa [walk] using h
  case case2 ih => simpa [walk] using ih h
  case case3 ih => simpa [walk] using ih h
  case case4 => simp at h
  case case5 => simp at h
  case case14 ih =>
    have hw := ih h
    simp only [dite_eq_ite] at hw
    rw [walk_cons (by assumption) (by assumption) (by simp [Purpose.namesFile]) (by assumption)]
    simp_all [Purpose.follows]
  all_goals
    rw [walk_cons (by assumption) (by assumption) (by simp [Purpose.namesFile]) (by assumption)]
    simp_all [Purpose.follows]

/-- Where a walk ends at nothing, it can be looked at what has been put there since. -/
theorem walk_look_of_extends (he : t.Extends t') {links : Nat} {here location : Location}
    {steps : List String} {slash s : Bool} {entry : Entry} (hl : ∀ target, entry ≠ .link target)
    (hp : t'.entry? location = some entry)
    (h : t.walk purpose links here steps slash = .ok ⟨location, none, s⟩) :
    t'.walk .look links here steps slash = .ok ⟨location, some entry, s⟩ := by
  have hlook (steps : List String) (slash : Bool) :
      ¬(steps.isEmpty && slash && Purpose.look.namesFile) = true := by simp [Purpose.namesFile]
  fun_induction walk t purpose links here steps slash
  case case1 =>
    simp only [Except.ok.injEq, Place.mk.injEq] at h
    obtain ⟨rfl, -, rfl⟩ := h
    rw [walk, hp]
  case case2 ih => simpa [walk] using ih h
  case case3 ih => simpa [walk] using ih h
  case case6 hdot hup _ hlong _ hend =>
    simp only [Except.ok.injEq, Place.mk.injEq] at h
    obtain ⟨rfl, -, rfl⟩ := h
    rw [walk_cons hdot hup (hlook _ _) hlong, hp]
    cases entry with
    | file bytes => simp [hend]
    | directory => simp [hend]
    | link target => exact absurd rfl (hl target)
  case case11 hdot hup _ hlong hd hend ih =>
    rw [walk_cons hdot hup (hlook _ _) hlong, he _ _ hd]
    simp only [hend, Bool.false_eq_true, if_false]
    exact ih h
  case case14 hdot hup _ hlong target hd hend hn ih =>
    simp only [dite_eq_ite] at ih
    rw [walk_cons hdot hup (hlook _ _) hlong, he _ _ hd]
    simp only [Purpose.follows, Bool.not_true, Bool.and_false, Bool.false_eq_true, if_false, hn]
    exact ih h
  all_goals simp at h

theorem resolve_look_of_append {place : Place} (h : t.resolve .append p = .ok place) :
    t.resolve .look p = .ok place := by
  obtain ⟨h₀, h₁, h₂, hw⟩ := resolve_eq_ok_iff.1 h
  exact resolve_eq_ok_iff.2 ⟨h₀, h₁, h₂, walk_look_of_append hw⟩

/-! ## Operations -/

theorem makeDirectory_cases (h : t.makeDirectory p = .ok t') :
    ∃ place, t.resolve .put p = .ok place ∧ t.entry? place.location = none ∧
      t' = t.put place.location .directory := by
  rcases hr : t.resolve .put p with e | place
  · simp [makeDirectory, hr, bind, Except.bind] at h
  · have he := entry_of_resolve hr
    rcases hp : place.entry with _ | e
    · simp only [makeDirectory, hr, bind, Except.bind, hp, pure, Except.pure, Except.ok.injEq] at h
      exact ⟨place, rfl, by rw [← he, hp], h.symm⟩
    · simp [makeDirectory, hr, bind, Except.bind, hp, throw, throwThe, MonadExceptOf.throw] at h

theorem create_cases (h : t.create p bytes = .ok t') :
    ∃ place, t.resolve .create p = .ok place ∧ t.entry? place.location = none ∧
      t' = t.put place.location (.file bytes) := by
  rcases hr : t.resolve .create p with e | place
  · simp [create, hr, bind, Except.bind] at h
  · have he := entry_of_resolve hr
    rcases hp : place.entry with _ | e
    · simp only [create, hr, bind, Except.bind, hp, pure, Except.pure, Except.ok.injEq] at h
      exact ⟨place, rfl, by rw [← he, hp], h.symm⟩
    · simp [create, hr, bind, Except.bind, hp, throw, throwThe, MonadExceptOf.throw] at h

theorem append_cases (h : t.append p bytes = .ok t') :
    ∃ place, t.resolve .append p = .ok place ∧
      ((t.entry? place.location = none ∧ t' = t.put place.location (.file bytes)) ∨
        ∃ old, t.entry? place.location = some (.file old) ∧
          t' = t.put place.location (.file (old ++ bytes))) := by
  rcases hr : t.resolve .append p with e | place
  · simp [append, hr, bind, Except.bind] at h
  · have he := entry_of_resolve hr
    refine ⟨place, rfl, ?_⟩
    rcases hp : place.entry with _ | e
    · simp only [append, hr, bind, Except.bind, hp, pure, Except.pure, Except.ok.injEq] at h
      exact .inl ⟨by rw [← he, hp], h.symm⟩
    · cases e with
      | file old =>
        simp only [append, hr, bind, Except.bind, hp, pure, Except.pure, Except.ok.injEq] at h
        exact .inr ⟨old, by rw [← he, hp], h.symm⟩
      | directory =>
        simp [append, hr, bind, Except.bind, hp, throw, throwThe, MonadExceptOf.throw] at h
      | link target =>
        simp [append, hr, bind, Except.bind, hp, throw, throwThe, MonadExceptOf.throw] at h

end FileTree

end Groundwork
