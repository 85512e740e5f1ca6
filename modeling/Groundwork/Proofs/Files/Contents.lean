import Groundwork.Proofs.Artifact.Placement
import Groundwork.Proofs.Files.Vacancy

/-!
# What is below a directory

The contents of a directory are listed by place, as seen from the directory. To say
`t.Holds place contents` is to say that the tree holds just these below the directory at `place`:
whatever is not listed is not there. Making a directory and creating a file are functions on lists
of contents (`Contents.makeDirectory?`, `Contents.createFile?`), and a tree follows them: making the
directory above a file that a directory is to hold and creating the file there succeed in the tree
if they do on its contents (`Holds.run_makeParent`, `Holds.run_writeNew`), and nothing changes but
what is below the directory (`FileTree.Fills`).
-/

namespace Groundwork

open Text Groundwork.Path Workspace

/-- The entries below a directory, each with its place as seen from there. -/
abbrev Contents := List (Location × Entry)

namespace Contents

/-- The contents with a directory made, or as they are if it is there. -/
def makeDirectory? (contents : Contents) (location : Location) : Option Contents :=
  match contents.lookup location with
  | none => some ((location, .directory) :: contents)
  | some .directory => some contents
  | some _ => none

/-- The contents with a file created, where nothing may be yet. -/
def createFile? (contents : Contents) (location : Location) (bytes : List UInt8) :
    Option Contents :=
  match contents.lookup location with
  | none => some ((location, .file bytes) :: contents)
  | some _ => none

theorem lookup_of_makeDirectory? {contents contents' : Contents} {location : Location}
    (h : contents.makeDirectory? location = some contents') :
    contents'.lookup location = some .directory := by
  unfold makeDirectory? at h
  split at h
  · obtain rfl := Option.some.inj h
    simp
  · next hl =>
    obtain rfl := Option.some.inj h
    exact hl
  · cases h

end Contents

/-- A file in a directory: its name, and the directory below that one that it is in, if it is. -/
structure Slot where
  /-- The directory that the file is in. -/
  directory : Option String
  /-- The name of the file. -/
  name : String
  deriving DecidableEq, Repr

namespace Slot

/-- The path of a file, from the directory. -/
def path : Slot → Path
  | ⟨none, name⟩ => ⟨name⟩
  | ⟨some directory, name⟩ => pair directory name

/-- The place of the directory that a file is in, as seen from the directory. -/
def above (slot : Slot) : Location := slot.directory.toList

/-- What names files and directories can have: names that are not too long. -/
structure Named (slot : Slot) : Prop where
  /-- The file has a name. -/
  name : IsName slot.name ∧ byteLength slot.name ≤ FileTree.nameLimit
  /-- The directory has a name. -/
  directory : ∀ d ∈ slot.directory, IsName d ∧ byteLength d ≤ FileTree.nameLimit

instance (slot : Slot) : Decidable slot.Named :=
  decidable_of_iff
    ((IsName slot.name ∧ byteLength slot.name ≤ FileTree.nameLimit) ∧
      ∀ d ∈ slot.directory, IsName d ∧ byteLength d ≤ FileTree.nameLimit)
    ⟨fun ⟨hn, hd⟩ => ⟨hn, hd⟩, fun h => ⟨h.name, h.directory⟩⟩

end Slot

namespace Contents

/-- The contents with the directory made that a file is to be in, if it is not in the directory
itself. -/
def makeAbove? (contents : Contents) (slot : Slot) : Option Contents :=
  if slot.above = [] then some contents else contents.makeDirectory? slot.above

/-- The contents with a file created, and before that the directory that it is in. -/
def add? (contents : Contents) (slot : Slot) (bytes : List UInt8) : Option Contents := do
  let contents ← contents.makeAbove? slot
  contents.createFile? (slot.name :: slot.above) bytes

theorem add?_eq_some {contents contents' : Contents} {slot : Slot} {bytes : List UInt8}
    (h : contents.add? slot bytes = some contents') :
    ∃ made, contents.makeAbove? slot = some made ∧
      made.createFile? (slot.name :: slot.above) bytes = some contents' :=
  Option.bind_eq_some_iff.1 h

theorem lookup_of_makeAbove? {contents contents' : Contents} {slot : Slot}
    (h : contents.makeAbove? slot = some contents') :
    slot.above = [] ∨ contents'.lookup slot.above = some .directory := by
  unfold makeAbove? at h
  split at h
  · next ha => exact .inl ha
  · exact .inr (lookup_of_makeDirectory? h)

end Contents

namespace FileTree

variable {t t' : FileTree} {place : Location} {contents contents' : Contents}

/-- What is below the directory at `place` is just what the contents list. -/
structure Holds (t : FileTree) (place : Location) (contents : Contents) : Prop where
  /-- The directory is there. -/
  directory : t.entry? place = some .directory
  /-- Each place below holds what is listed for it. -/
  below : ∀ location ≠ [], t.entry? (location ++ place) = contents.lookup location

/-- Nothing is below a place that is not a directory. -/
theorem Rooted.entry?_append (h : t.Rooted) (hp : t.entry? place = none) (location : Location) :
    t.entry? (location ++ place) = none := by
  induction location with
  | nil => exact hp
  | cons name above ih => exact h.entry?_below (by simp [ih])

/-- A directory that has just been made holds nothing. -/
theorem Rooted.holds_put (h : t.Rooted) (hp : t.entry? place = none) :
    (t.put place .directory).Holds place [] where
  directory := entry?_put_self (ne_nil_of_entry?_eq_none hp) _
  below location hne := by
    rw [entry?_put_of_ne (by simpa using hne), h.entry?_append hp]
    rfl

/-- What is below the directory at `place` has become just what the contents list, and nothing else
has changed. -/
structure Fills (t t' : FileTree) (place : Location) (contents : Contents) : Prop
    extends t'.Holds place contents where
  /-- What is not at or below the place is as it was. -/
  outside : ∀ location, ¬place <:+ location → t'.entry? location = t.entry? location

theorem Holds.fills (h : t.Holds place contents) : t.Fills t place contents := ⟨h, fun _ _ => rfl⟩

theorem Fills.trans {t'' : FileTree} (h : t.Fills t' place contents)
    (h' : t'.Fills t'' place contents') : t.Fills t'' place contents' where
  toHolds := h'.toHolds
  outside location hl := (h'.outside location hl).trans (h.outside location hl)

/-- Putting an entry below a directory puts it into its contents. -/
theorem Holds.put (h : t.Holds place contents) {location : Location} (hne : location ≠ [])
    (entry : Entry) :
    t.Fills (t.put (location ++ place) entry) place ((location, entry) :: contents) where
  outside other ho := by
    refine entry?_put_of_ne ?_ entry
    rintro rfl
    exact ho (List.suffix_append _ _)
  directory := by
    rw [entry?_put_of_ne (by simpa [eq_comm] using hne)]
    exact h.directory
  below other ho := by
    by_cases he : other = location
    · subst he
      rw [entry?_put_self (by simp [hne])]
      simp
    · rw [entry?_put_of_ne (by simpa using he), h.below other ho, List.lookup_cons,
        beq_eq_false_iff_ne.2 he]

end FileTree

/-! ## Making directories and creating files -/

section

variable {w : Workspace} {target : Path} {name : String} {above : List Char} {links : Nat}
  {here : Location} {contents contents' : Contents} {slot : Slot} {text : String}

/-- Making the directory above a file that a directory is to hold. -/
theorem FileTree.Holds.run_makeParent (h : w.files.Holds (name :: here) contents)
    (ha : w.files.Awaits target name above links here) (hs : slot.Named)
    (hshort : byteLength (target.join slot.path).text ≤ FileTree.pathLimit)
    (hc : contents.makeAbove? slot = some contents') :
    ∃ t, (Action.makeParent (target.join slot.path) : Action (StateM Workspace) Unit).run w =
      (.ok (), { w with files := t }) ∧ w.files.Fills t (name :: here) contents' := by
  obtain ⟨_ | d, n⟩ := slot
  · obtain rfl : contents = contents' := by simpa [Contents.makeAbove?, Slot.above] using hc
    have hcut := ha.awaits_cut
    refine ⟨w.files, ?_, h.fills⟩
    rw [Action.makeParent, Slot.path, ha.ends.parent?_join hs.name.1]
    exact run_makeDirectories_of_there hcut.text_ne_empty
      (hcut.makeDirectory_of_directory h.directory) (hcut.isDirectory_of_directory h.directory)
  · obtain ⟨hd, hl⟩ := hs.directory d rfl
    have hr := ha.reaches h.directory
    have hle := byteLength_join_directory_le target hd n
    have hshortd : byteLength (target.join ⟨d⟩).text ≤ FileTree.pathLimit :=
      Nat.le_trans hle hshort
    have hne := text_join_ne_empty target hd
    have hbelow : w.files.entry? (d :: name :: here) = contents.lookup [d] := h.below [d] (by simp)
    have hmake := FileTree.makeDirectory_name hr hd hl
    rw [if_neg (by omega), hbelow] at hmake
    rw [Action.makeParent, Slot.path, parent?_join_pair target hd hs.name.1]
    simp only [Contents.makeAbove?, Slot.above, Option.toList_some, List.cons_ne_nil, if_false,
      Contents.makeDirectory?] at hc
    split at hc
    · next hlookup =>
      obtain rfl := Option.some.inj hc
      rw [hlookup] at hmake
      exact ⟨_, run_makeDirectories_of_made hne hmake, h.put (List.cons_ne_nil d []) _⟩
    · next hlookup =>
      obtain rfl := Option.some.inj hc
      rw [hlookup] at hmake hbelow
      exact ⟨w.files, run_makeDirectories_of_there hne hmake
        (FileTree.isDirectory_name hr hd hl hshortd hbelow), h.fills⟩
    · cases hc

/-- Creating a file in a directory. -/
theorem FileTree.Holds.run_writeNew (h : w.files.Holds (name :: here) contents)
    (ha : w.files.Awaits target name above links here) (hs : slot.Named)
    (hshort : byteLength (target.join slot.path).text ≤ FileTree.pathLimit)
    (hd : slot.above = [] ∨ contents.lookup slot.above = some .directory)
    (hc : contents.createFile? (slot.name :: slot.above) (encode text) = some contents') :
    ∃ t, (Action.writeNew (target.join slot.path) text : Action (StateM Workspace) Unit).run w =
      (.ok (), { w with files := t }) ∧ w.files.Fills t (name :: here) contents' := by
  have hr := ha.reaches h.directory
  have hbelow := h.below (slot.name :: slot.above) (List.cons_ne_nil _ _)
  have hfree : contents.lookup (slot.name :: slot.above) = none ∧
      contents' = (slot.name :: slot.above, .file (encode text)) :: contents := by
    unfold Contents.createFile? at hc
    split at hc
    · next hlookup => exact ⟨hlookup, (Option.some.inj hc).symm⟩
    · cases hc
  obtain ⟨hlookup, rfl⟩ := hfree
  rw [hlookup] at hbelow
  have hlong : ¬(FileTree.pathLimit < byteLength (target.join slot.path).text ∨
      FileTree.nameLimit < byteLength slot.name) :=
    not_or.2 ⟨Nat.not_lt.2 hshort, Nat.not_lt.2 hs.name.2⟩
  have hcreate : w.files.create (target.join slot.path) (encode text) =
      .ok (w.files.put (slot.name :: slot.above ++ name :: here) (.file (encode text))) := by
    obtain ⟨_ | d, n⟩ := slot
    · refine (FileTree.create_name hr hs.name.1).trans ((if_neg hlong).trans ?_)
      exact hbelow ▸ rfl
    · obtain ⟨hnd, hld⟩ := hs.directory d rfl
      have he : w.files.entry? (d :: name :: here) = some .directory :=
        (h.below [d] (by simp)).trans (hd.resolve_left (List.cons_ne_nil _ _))
      refine (FileTree.create_pair hr hnd hs.name.1 hld he).trans ((if_neg hlong).trans ?_)
      exact hbelow ▸ rfl
  refine ⟨_, ?_, h.put (List.cons_ne_nil _ _) _⟩
  simp only [Groundwork.run_writeNew, change, hcreate, mapError_ok]

/-- Reading a file in a directory. -/
theorem FileTree.Holds.read {t : FileTree} {bytes : List UInt8}
    (h : t.Holds (name :: here) contents) (ha : t.Awaits target name above links here)
    (hs : slot.Named)
    (hshort : byteLength (target.join slot.path).text ≤ FileTree.pathLimit)
    (hd : slot.above = [] ∨ contents.lookup slot.above = some .directory)
    (hc : contents.lookup (slot.name :: slot.above) = some (.file bytes)) :
    t.read (target.join slot.path) = .ok bytes := by
  have hr := ha.reaches h.directory
  have hfile : t.entry? (slot.name :: slot.above ++ name :: here) = some (.file bytes) :=
    (h.below _ (List.cons_ne_nil _ _)).trans hc
  obtain ⟨_ | d, n⟩ := slot
  · exact FileTree.read_name hr hs.name.1 hs.name.2 hshort hfile
  · obtain ⟨hnd, hld⟩ := hs.directory d rfl
    have he : t.entry? (d :: name :: here) = some .directory :=
      (h.below [d] (by simp)).trans (hd.resolve_left (List.cons_ne_nil _ _))
    exact FileTree.read_pair hr hnd hs.name.1 hld he hshort hs.name.2 hfile

end

end Groundwork
