import Groundwork.Proofs.Artifact.Writes
import Groundwork.Proofs.Files.Descent

/-!
# Writing below a root

An artifact lies in a directory below the root of a project. When the root leads to a place, making
the directory of the artifact is one step there (`MakesBelow`, `makesBelow_of_makesParent`): the
directory is made, or is there already, or cannot be made, and then nothing has changed. In a
directory that is there, creating and appending act on the place of the name
(`create_pair`, `append_pair`).
-/

namespace Groundwork

open Text Groundwork.Path Workspace

variable {t t' : FileTree} {root : Path} {links : Nat} {here : Location} {directory name : String}
  {bytes : List UInt8}

/-! ## Making a directory -/

namespace Workspace

theorem run_settleDirectory (p : Path) (w : Workspace) :
    (FileStore.settleDirectory p : StateM Workspace (Except FileError Unit)) w =
      match w.files.makeDirectory p with
      | .ok t => (.ok (), { w with files := t })
      | .error e =>
        (if e = .alreadyThere ∧ w.files.isDirectory p = true then .ok () else .error e, w) := by
  simp only [FileStore.settleDirectory, bind, StateT.bind, run_makeDirectory, change]
  rcases w.files.makeDirectory p with e | t
  · by_cases he : e = .alreadyThere
    · rcases hd : w.files.isDirectory p with _ | _ <;>
        simp [he, hd, bind, StateT.bind, run_isDirectory]
    · simp [he]
  · rfl

/-- Nothing has to be made above a directory unless something on the way to it is missing. -/
theorem run_makeDirectories {p : Path} (hp : p.text ≠ "") {w w' : Workspace}
    {r : Except FileError Unit} (hr : r ≠ .error .notFound)
    (h : (FileStore.settleDirectory p : StateM Workspace (Except FileError Unit)) w = (r, w')) :
    (FileStore.makeDirectories p : StateM Workspace (Except FileError Unit)) w = (r, w') := by
  simp only [FileStore.makeDirectories, ancestors, FileStore.climb, if_neg hp, bind, StateT.bind, h]
  rcases r with e | u
  · cases e <;> first | rfl | exact absurd rfl hr
  · rfl

/-- A directory that can be made is made. -/
theorem run_makeDirectories_of_made {p : Path} (hp : p.text ≠ "") {w : Workspace} {t : FileTree}
    (h : w.files.makeDirectory p = .ok t) :
    (Action.makeDirectories p : Action (StateM Workspace) Unit).run w =
      (.ok (), { w with files := t }) := by
  have hs : (FileStore.settleDirectory p : StateM Workspace (Except FileError Unit)) w =
      (.ok (), { w with files := t }) := by
    rw [run_settleDirectory, h]
  rw [Action.makeDirectories, run_attempt, run_makeDirectories hp (by simp) hs]
  rfl

/-- A directory that is there is left as it is. -/
theorem run_makeDirectories_of_there {p : Path} (hp : p.text ≠ "") {w : Workspace}
    (h : w.files.makeDirectory p = .error .alreadyThere) (hd : w.files.isDirectory p = true) :
    (Action.makeDirectories p : Action (StateM Workspace) Unit).run w = (.ok (), w) := by
  have hs : (FileStore.settleDirectory p : StateM Workspace (Except FileError Unit)) w =
      (.ok (), w) := by
    rw [run_settleDirectory, h]
    simp [hd]
  rw [Action.makeDirectories, run_attempt, run_makeDirectories hp (by simp) hs]
  rfl

end Workspace

/-- Making `directory` below `root`, which is at `here`, takes the files `t` to others with a
result. -/
inductive MakesBelow (root : Path) (directory : String) (here : Location) (t : FileTree) :
    Except Failure Unit → FileTree → Prop
  /-- The directory is made. -/
  | made (h : t.entry? (directory :: here) = none)
    (hp : byteLength (root.join ⟨directory⟩).text ≤ FileTree.pathLimit) :
    MakesBelow root directory here t (.ok ()) (t.put (directory :: here) .directory)
  /-- The directory is there, or a link to one. -/
  | there (h : t.entry? (directory :: here) ≠ none)
    (hd : t.isDirectory (root.join ⟨directory⟩) = true) :
    MakesBelow root directory here t (.ok ()) t
  /-- The directory cannot be made: its path is too long, or something else is there. -/
  | failed (e : FileError)
    (h : FileTree.pathLimit < byteLength (root.join ⟨directory⟩).text ∨
      t.entry? (directory :: here) ≠ none ∧ t.isDirectory (root.join ⟨directory⟩) = false) :
    MakesBelow root directory here t (.error (.file (root.join ⟨directory⟩) e)) t

theorem MakesBelow.extends {r : Except Failure Unit} (h : MakesBelow root directory here t r t') :
    t.Extends t' := by
  cases h with
  | made h => exact FileTree.extends_put h _
  | there => exact .refl t
  | failed => exact .refl t

namespace FileTree

/-- Resolving a name below a root. -/
theorem resolve_name (h : t.Reaches root links here) (hn : IsName name) (purpose : Purpose) :
    t.resolve purpose (root.join ⟨name⟩) =
      if pathLimit < byteLength (root.join ⟨name⟩).text then .error .nameTooLong
      else t.walk purpose links here [name] false := by
  rw [resolve_join h purpose hn.not_absolute (by simp [hn.steps]) hn.noNull, hn.steps,
    hn.endsWithSlash]

/-- What a name below a root leads to, if neither the name nor the path is too long. -/
theorem resolve_short_name (h : t.Reaches root links here) (hn : IsName name)
    (hl : byteLength name ≤ nameLimit) (hp : byteLength (root.join ⟨name⟩).text ≤ pathLimit)
    {purpose : Purpose}
    (hf : purpose.follows = true → ∀ target, t.entry? (name :: here) ≠ some (.link target)) :
    t.resolve purpose (root.join ⟨name⟩) = .ok ⟨name :: here, t.entry? (name :: here), false⟩ := by
  rw [resolve_name h hn, if_neg (Nat.not_lt.2 hp), walk_name hn hl hf]

/-- Resolving a name in a directory below a root. -/
theorem resolve_pair (h : t.Reaches root links here) (hd : IsName directory) (hn : IsName name)
    (hl : byteLength directory ≤ nameLimit)
    (he : t.entry? (directory :: here) = some .directory) (purpose : Purpose) :
    t.resolve purpose (root.join (pair directory name)) =
      if pathLimit < byteLength (root.join (pair directory name)).text then .error .nameTooLong
      else t.walk purpose links (directory :: here) [name] false := by
  rw [resolve_join h purpose (pair_not_absolute hd) (by simp [steps_pair hd hn])
      (null_not_mem_pair hd hn),
    steps_pair hd hn, endsWithSlash_pair hn, walk_pair hd hl he]

theorem makeDirectory_name (h : t.Reaches root links here) (hn : IsName name)
    (hl : byteLength name ≤ nameLimit) :
    t.makeDirectory (root.join ⟨name⟩) =
      if pathLimit < byteLength (root.join ⟨name⟩).text then .error .nameTooLong
      else
        match t.entry? (name :: here) with
        | none => .ok (t.put (name :: here) .directory)
        | some _ => .error .alreadyThere := by
  rw [makeDirectory, resolve_name h hn, walk_name hn hl (by simp [Purpose.follows])]
  split
  · rfl
  · simp only [bind, Except.bind]
    rcases t.entry? (name :: here) with _ | e <;> rfl

/-- Creating a file where a path leads that ends in a name in the directory `here`. -/
theorem create_of_resolve {p : Path} (hn : IsName name)
    (hr : t.resolve .create p =
      if pathLimit < byteLength p.text then .error .nameTooLong
      else t.walk .create links here [name] false) :
    t.create p bytes =
      if pathLimit < byteLength p.text ∨ nameLimit < byteLength name then .error .nameTooLong
      else
        match t.entry? (name :: here) with
        | none => .ok (t.put (name :: here) (.file bytes))
        | some _ => .error .alreadyThere := by
  rw [create, hr]
  by_cases hp : pathLimit < byteLength p.text
  · simp [hp, bind, Except.bind]
  · by_cases hlong : nameLimit < byteLength name
    · rw [walk, if_neg hn.ne_point, if_neg hn.ne_points]
      simp [hp, hlong, bind, Except.bind]
    · rw [walk_name hn (by omega) (by simp [Purpose.follows])]
      simp only [hp, hlong, or_self, if_false, bind, Except.bind]
      rcases t.entry? (name :: here) with _ | e <;> rfl

theorem create_name (h : t.Reaches root links here) (hn : IsName name) :
    t.create (root.join ⟨name⟩) bytes =
      if pathLimit < byteLength (root.join ⟨name⟩).text ∨ nameLimit < byteLength name then
        .error .nameTooLong
      else
        match t.entry? (name :: here) with
        | none => .ok (t.put (name :: here) (.file bytes))
        | some _ => .error .alreadyThere :=
  create_of_resolve hn (resolve_name h hn .create)

theorem create_pair (h : t.Reaches root links here) (hd : IsName directory) (hn : IsName name)
    (hl : byteLength directory ≤ nameLimit)
    (he : t.entry? (directory :: here) = some .directory) :
    t.create (root.join (pair directory name)) bytes =
      if pathLimit < byteLength (root.join (pair directory name)).text ∨
        nameLimit < byteLength name then .error .nameTooLong
      else
        match t.entry? (name :: directory :: here) with
        | none => .ok (t.put (name :: directory :: here) (.file bytes))
        | some _ => .error .alreadyThere :=
  create_of_resolve hn (resolve_pair h hd hn hl he .create)

/-- A free name in a directory that is missing or real leads to nothing. -/
theorem has_pair (h : t.Reaches root links here) (hd : IsName directory) (hn : IsName name)
    (hl : byteLength directory ≤ nameLimit) (hname : byteLength name ≤ nameLimit)
    (he : t.entry? (directory :: here) = none ∨ t.entry? (directory :: here) = some .directory)
    (hf : t.entry? (name :: directory :: here) = none) :
    t.has (root.join (pair directory name)) = false := by
  rw [has, find?]
  rcases he with he | he
  · rw [resolve_join h .look (pair_not_absolute hd) (by simp [steps_pair hd hn])
        (null_not_mem_pair hd hn), steps_pair hd hn, endsWithSlash_pair hn,
      walk_cons hd.ne_point hd.ne_points (by simp) (by omega), he]
    by_cases hp : pathLimit < byteLength (root.join (pair directory name)).text <;> simp [hp]
  · rw [resolve_pair h hd hn hl he, walk_name hn hname (by simp [hf]), hf]
    by_cases hp : pathLimit < byteLength (root.join (pair directory name)).text <;> simp [hp]

theorem isDirectory_name (h : t.Reaches root links here) (hn : IsName name)
    (hl : byteLength name ≤ nameLimit)
    (hp : byteLength (root.join ⟨name⟩).text ≤ pathLimit)
    (he : t.entry? (name :: here) = some .directory) : t.isDirectory (root.join ⟨name⟩) = true := by
  rw [isDirectory, find?, resolve_short_name h hn hl hp (by simp [he]), he]

/-! ### Files in a directory -/

/-- The bytes of the file at a place, and none if there is no file. -/
def bytesAt (t : FileTree) (location : Location) : List UInt8 :=
  match t.entry? location with
  | some (.file bytes) => bytes
  | _ => []

theorem bytesAt_congr {location : Location} (h : t'.entry? location = t.entry? location) :
    t'.bytesAt location = t.bytesAt location := by
  simp only [bytesAt, h]

theorem entry?_of_bytesAt {location : Location} (h : t.bytesAt location ≠ []) :
    t.entry? location = some (.file (t.bytesAt location)) := by
  unfold bytesAt at h ⊢
  split
  · assumption
  · next hno =>
    split at h
    · next bytes hf => exact absurd hf (hno bytes)
    · exact absurd rfl h

/-- What can be read is there. -/
theorem has_of_read {p : Path} (h : t.read p = .ok bytes) : t.has p = true := by
  rcases hr : t.resolve .look p with e | ⟨location, entry, slash⟩
  · simp [read, hr, bind, Except.bind] at h
  · simp only [read, hr, bind, Except.bind] at h
    rw [has, find?, hr]
    split at h
    · cases slash
      · rfl
      · cases h
    · cases h
    · cases h

/-- Reading the file of a name below a root, if it can be looked up. -/
theorem read_name (h : t.Reaches root links here) (hn : IsName name)
    (hl : byteLength name ≤ nameLimit) (hp : byteLength (root.join ⟨name⟩).text ≤ pathLimit)
    (hf : t.entry? (name :: here) = some (.file bytes)) :
    t.read (root.join ⟨name⟩) = .ok bytes := by
  rw [read, resolve_short_name h hn hl hp (by simp [hf]), hf]
  rfl

/-- Reading the file of a name in a directory below a root, if it can be looked up. -/
theorem read_pair (h : t.Reaches root links here) (hd : IsName directory) (hn : IsName name)
    (hl : byteLength directory ≤ nameLimit)
    (he : t.entry? (directory :: here) = some .directory)
    (hp : byteLength (root.join (pair directory name)).text ≤ pathLimit)
    (hname : byteLength name ≤ nameLimit)
    (hf : t.entry? (name :: directory :: here) = some (.file bytes)) :
    t.read (root.join (pair directory name)) = .ok bytes := by
  rw [read, resolve_pair h hd hn hl he, if_neg (by omega), walk_name hn hname (by simp [hf]), hf]
  rfl

section Aggregators

variable (h : t.Reaches root links here) (hd : IsName directory) (hn : IsName name)
  (hl : byteLength directory ≤ nameLimit) (he : t.entry? (directory :: here) = some .directory)
  (hname : byteLength name ≤ nameLimit)
  (hf : t.entry? (name :: directory :: here) = none ∨
    ∃ old, t.entry? (name :: directory :: here) = some (.file old))

include h hd hn hl he hname hf

/-- What is found of a file or of nothing is what there is. -/
theorem existing_pair :
    t.existing (root.join (pair directory name)) =
      if pathLimit < byteLength (root.join (pair directory name)).text then .error .nameTooLong
      else .ok (t.bytesAt (name :: directory :: here)) := by
  rw [existing, read, resolve_pair h hd hn hl he, bytesAt]
  by_cases hp : pathLimit < byteLength (root.join (pair directory name)).text
  · rw [if_pos hp, if_pos hp]
    rfl
  · rw [if_neg hp, if_neg hp]
    rcases hf with hf | ⟨old, hf⟩
    · rw [walk_name hn hname (by simp [hf]), hf]
      rfl
    · rw [walk_name hn hname (by simp [hf]), hf]
      rfl

/-- Appending to a file or to nothing makes a file of what there is and what is appended. -/
theorem append_pair :
    t.append (root.join (pair directory name)) bytes =
      if pathLimit < byteLength (root.join (pair directory name)).text then .error .nameTooLong
      else
        .ok (t.put (name :: directory :: here)
          (.file (t.bytesAt (name :: directory :: here) ++ bytes))) := by
  rw [append, resolve_pair h hd hn hl he, bytesAt]
  by_cases hp : pathLimit < byteLength (root.join (pair directory name)).text
  · rw [if_pos hp, if_pos hp]
    rfl
  · rw [if_neg hp, if_neg hp]
    rcases hf with hf | ⟨old, hf⟩
    · rw [walk_name hn hname (by simp [hf]), hf]
      rfl
    · rw [walk_name hn hname (by simp [hf]), hf]
      rfl

end Aggregators

end FileTree

/-- Settling a directory below a root makes it, finds it or fails; nothing above it is missing. -/
theorem makesBelow_of_settleDirectory {r : Except FileError Unit} {w w' : Workspace}
    (h : w.files.Reaches root links here) (hd : IsName directory)
    (hl : byteLength directory ≤ FileTree.nameLimit)
    (hs : (FileStore.settleDirectory (root.join ⟨directory⟩) :
      StateM Workspace (Except FileError Unit)) w = (r, w')) :
    r ≠ .error .notFound ∧
      MakesBelow root directory here w.files (r.mapError (Failure.file (root.join ⟨directory⟩)))
        w'.files := by
  rw [run_settleDirectory, FileTree.makeDirectory_name h hd hl] at hs
  by_cases hlong : FileTree.pathLimit < byteLength (root.join ⟨directory⟩).text
  · simp only [if_pos hlong, reduceCtorEq, false_and, if_false] at hs
    obtain ⟨rfl, rfl⟩ := Prod.mk.inj hs
    exact ⟨by simp, .failed _ (.inl hlong)⟩
  · simp only [if_neg hlong] at hs
    by_cases he : w.files.entry? (directory :: here) = none
    · simp only [he] at hs
      obtain ⟨rfl, rfl⟩ := Prod.mk.inj hs
      exact ⟨by simp, .made he (by omega)⟩
    · obtain ⟨entry, hentry⟩ := Option.ne_none_iff_exists'.1 he
      simp only [hentry, true_and] at hs
      obtain ⟨rfl, rfl⟩ := Prod.mk.inj hs
      rcases hdir : w.files.isDirectory (root.join ⟨directory⟩) with _ | _
      · exact ⟨by simp, .failed _ (.inr ⟨he, hdir⟩)⟩
      · exact ⟨by simp, .there he hdir⟩

/-- Making the directory above a name in a directory below a root is one step at the root. -/
theorem makesBelow_of_makesParent {r : Except Failure Unit} (h : t.Reaches root links here)
    (hd : IsName directory) (hl : byteLength directory ≤ FileTree.nameLimit) (hn : IsName name)
    (hm : MakesParent (root.join (pair directory name)) t r t') :
    MakesBelow root directory here t r t' := by
  obtain ⟨w, w', rfl, rfl, hm⟩ := hm
  rw [Action.makeParent, parent?_join_pair root hd hn] at hm
  simp only [Action.makeDirectories, run_attempt] at hm
  rcases hs : (FileStore.settleDirectory (root.join ⟨directory⟩) :
    StateM Workspace (Except FileError Unit)) w with ⟨r, w₁⟩
  obtain ⟨hne, hb⟩ := makesBelow_of_settleDirectory h hd hl hs
  rw [run_makeDirectories (text_join_ne_empty root hd) hne hs] at hm
  obtain ⟨rfl, rfl⟩ := Prod.mk.inj hm
  exact hb

end Groundwork
