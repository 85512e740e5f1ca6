import Groundwork.Files.Tree

/-!
# Editing file trees

What a user may do to a file tree and a command may not: write over a file, put a link anywhere, and
take entries away.
-/

namespace Groundwork.FileTree

/-- The tree with a file with the given bytes where a path leads, whatever was there. -/
def overwrite (t : FileTree) (p : Path) (bytes : List UInt8) : Except FileError FileTree := do
  let place ← t.resolve .look p
  match place.entry with
  | some .directory => throw .isADirectory
  | _ => pure (t.put place.location (.file bytes))

/-- The tree with a link at a path, where nothing may be yet. -/
def makeLink (t : FileTree) (p : Path) (target : Path) : Except FileError FileTree := do
  let place ← t.resolve .put p
  match place.entry with
  | none => pure (t.put place.location (.link target))
  | some _ => throw .alreadyThere

/-- The tree without the entry at a path and all below it. -/
def remove (t : FileTree) (p : Path) : Except FileError FileTree := do
  let place ← t.resolve .put p
  match place.entry with
  | none => throw .notFound
  | some _ => pure ⟨t.entries.filter fun (location, _) => !place.location.isSuffixOf location⟩

end Groundwork.FileTree
