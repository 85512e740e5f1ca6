import Groundwork.Files.Error
import Groundwork.Path
import Groundwork.Text.Utf8

/-!
# File trees

A file tree holds files, directories and symbolic links. A path is resolved by walking along its
steps from the root: `..` leads to the parent, and a link is replaced by its target, forty times at
most. `FileTree.resolve` tells where the walk ends and what is there; reading, making directories,
creating files and appending to files are defined from it.

Nothing here takes an entry away: `makeDirectory` and `create` only add an entry where there is
none, and `append` only makes a file longer.
-/

namespace Groundwork

open Text

/-- A place in a tree: the names that lead there from the root, the last one first. -/
abbrev Location := List String

/-- What is at a place. -/
inductive Entry
  /-- A file and its bytes. -/
  | file (bytes : List UInt8)
  /-- A directory. -/
  | directory
  /-- A symbolic link. -/
  | link (target : Path)
  deriving DecidableEq, Repr

/-- A tree of files, by the places of its entries. The root is always a directory. -/
structure FileTree where
  /-- The entries below the root, the one last made first. -/
  entries : List (Location × Entry)

namespace FileTree

/-- The tree that holds nothing. -/
def empty : FileTree := ⟨[]⟩

/-- What is at a place, if anything is. -/
def entry? (t : FileTree) : Location → Option Entry
  | [] => some .directory
  | name :: above => t.entries.lookup (name :: above)

/-- The tree with `entry` at a place. -/
def put (t : FileTree) (location : Location) (entry : Entry) : FileTree :=
  ⟨(location, entry) :: t.entries.filter (·.1 != location)⟩

/-! ## Resolving paths -/

/-- The end of a walk. -/
structure Place where
  /-- Where the walk ends. -/
  location : Location
  /-- What is there. -/
  entry : Option Entry
  /-- Whether the last name was followed by a slash. -/
  slash : Bool
  deriving DecidableEq, Repr

/-- How many links a walk may follow. -/
def linkLimit : Nat := 40

/-- How many bytes a name may have. -/
def nameLimit : Nat := 255

/-- How many bytes a path may have. -/
def pathLimit : Nat := 4095

/-- What a path is resolved for. -/
inductive Purpose
  /-- To look at what is there. -/
  | look
  /-- To put an entry there, where nothing may be yet. -/
  | put
  /-- To create a file there, where nothing may be yet. -/
  | create
  /-- To append to the file there. -/
  | append
  deriving DecidableEq, Repr

/-- Whether a link at the very end is followed. -/
def Purpose.follows : Purpose → Bool
  | look | append => true
  | put | create => false

/-- Whether the last name must be that of a file, without a slash after it. -/
def Purpose.namesFile : Purpose → Bool
  | look | put => false
  | create | append => true

/-- The end of the walk from the directory `here` along `steps`, the last of which is followed by a
slash or not. -/
def walk (t : FileTree) (purpose : Purpose) (links : Nat) (here : Location) (steps : List String)
    (slash : Bool) : Except FileError Place :=
  match steps with
  | [] => .ok ⟨here, t.entry? here, false⟩
  | step :: steps =>
    if step = "." then walk t purpose links here steps slash
    else if step = ".." then walk t purpose links here.tail steps slash
    else if steps.isEmpty && slash && purpose.namesFile then .error .isADirectory
    else if nameLimit < byteLength step then .error .nameTooLong
    else
      match t.entry? (step :: here) with
      | none => if steps.isEmpty then .ok ⟨step :: here, none, slash⟩ else .error .notFound
      | some (.file bytes) =>
        if steps.isEmpty then .ok ⟨step :: here, some (.file bytes), slash⟩
        else .error .notADirectory
      | some .directory =>
        if steps.isEmpty then .ok ⟨step :: here, some .directory, slash⟩
        else walk t purpose links (step :: here) steps slash
      | some (.link target) =>
        if steps.isEmpty && !purpose.follows then .ok ⟨step :: here, some (.link target), slash⟩
        else if links = 0 then .error .tooManyLinks
        else
          walk t purpose (links - 1) (if target.isAbsolute then [] else here)
            (target.steps ++ steps) (slash || steps.isEmpty && target.endsWithSlash)
termination_by (links, steps.length)

/-- Where a path leads. Every path is taken from the root. -/
def resolve (t : FileTree) (purpose : Purpose) (p : Path) : Except FileError Place :=
  if p.text.toList.contains '\x00' then .error .nullInPath
  else if p.text = "" then .error .notFound
  else if pathLimit < byteLength p.text then .error .nameTooLong
  else walk t purpose linkLimit [] p.steps p.endsWithSlash

/-! ## Looking -/

/-- What a path leads to, if it leads to anything. A file is not found under a path that asks for a
directory. -/
def find? (t : FileTree) (p : Path) : Option Entry :=
  match t.resolve .look p with
  | .ok ⟨_, some (.file _), true⟩ => none
  | .ok place => place.entry
  | .error _ => none

/-- Whether a path leads to anything. -/
def has (t : FileTree) (p : Path) : Bool := (t.find? p).isSome

/-- Whether a path leads to a file. -/
def isFile (t : FileTree) (p : Path) : Bool :=
  match t.find? p with
  | some (.file _) => true
  | _ => false

/-- Whether a path leads to a directory. -/
def isDirectory (t : FileTree) (p : Path) : Bool :=
  match t.find? p with
  | some .directory => true
  | _ => false

/-- The bytes of the file that a path leads to. -/
def read (t : FileTree) (p : Path) : Except FileError (List UInt8) := do
  let place ← t.resolve .look p
  match place.entry with
  | some (.file bytes) => if place.slash then throw .notADirectory else pure bytes
  | some .directory => throw .isADirectory
  | _ => throw .notFound

/-! ## Adding -/

/-- The tree with a directory made at a path. -/
def makeDirectory (t : FileTree) (p : Path) : Except FileError FileTree := do
  let place ← t.resolve .put p
  match place.entry with
  | none => pure (t.put place.location .directory)
  | some _ => throw .alreadyThere

/-- The tree with a file created at a path, where nothing may be yet. -/
def create (t : FileTree) (p : Path) (bytes : List UInt8) : Except FileError FileTree := do
  let place ← t.resolve .create p
  match place.entry with
  | none => pure (t.put place.location (.file bytes))
  | some _ => throw .alreadyThere

/-- The tree with bytes appended to the file that a path leads to; a missing one is made. -/
def append (t : FileTree) (p : Path) (bytes : List UInt8) : Except FileError FileTree := do
  let place ← t.resolve .append p
  match place.entry with
  | none => pure (t.put place.location (.file bytes))
  | some (.file old) => pure (t.put place.location (.file (old ++ bytes)))
  | some _ => throw .isADirectory

end FileTree

end Groundwork
