import Groundwork.Files.Tree

/-!
# Listings of file trees

A listing names everything below a directory: directories with a slash at the end and without
content, files with their bytes. Links are listed as what they lead to, and directories that links
lead to are gone into; a link that leads nowhere has no content. Comparing two listings tells what
has changed.
-/

namespace Groundwork

/-- What is below a directory, in order: paths, and the bytes of files. -/
abbrev Listing := List (String × Option (List UInt8))

namespace FileTree

/-- The names of the entries right below a place. -/
def names (t : FileTree) (location : Location) : List String :=
  t.entries.filterMap fun (place, _) =>
    match place with
    | [] => none
    | name :: above => if above = location then some name else none

/-- What is below the directory `inside` of `root`, going at most `depth` directories down. -/
def listBelow (t : FileTree) (root : Path) : (depth : Nat) → (inside : String) → Listing
  | 0, _ => []
  | depth + 1, inside =>
    match t.resolve .look (root.join ⟨inside⟩) with
    | .ok ⟨location, some .directory, _⟩ =>
      (t.names location).flatMap fun name =>
        let here := inside ++ name
        match t.find? (root.join ⟨here⟩) with
        | some .directory => (here ++ "/", none) :: listBelow t root depth (here ++ "/")
        | some (.file bytes) => [(here, some bytes)]
        | _ => [(here, none)]
    | _ => []

/-- What is below a directory. No way down goes into more directories than there are entries, or as
many times that as links can be followed. -/
def listing (t : FileTree) (root : Path) : Listing :=
  (t.listBelow root ((linkLimit + 1) * (t.entries.length + 1)) "").mergeSort (·.1 ≤ ·.1)

/-- The path to a place. -/
def pathTo (location : Location) : Path := ⟨"/" ++ String.intercalate "/" location.reverse⟩

/-- The path to where a path leads that has no links in it, if it leads to anything. -/
def canonical? (t : FileTree) (p : Path) : Option Path :=
  match t.resolve .look p with
  | .ok ⟨location, some _, _⟩ => some (pathTo location)
  | _ => none

end FileTree

namespace Listing

/-- What a listing has that another one had not, or had with another content. -/
def changes (before after : Listing) : Listing :=
  after.filter fun (path, content) => before.lookup path != some content

/-- The paths that a listing had and another one has not. -/
def losses (before after : Listing) : List String :=
  (before.filter fun (path, _) => (after.lookup path).isNone).map (·.1)

end Listing

end Groundwork
