import Groundwork.Files.Store

/-!
# Reading text and making directories

`readText` reads a file that must be text. `makeDirectories` makes a directory along with those
above it that are missing: it climbs to the nearest path whose parent is there and goes down again,
and is content with directories that it finds.
-/

namespace Groundwork.FileStore

variable {m : Type → Type} [Monad m] [FileStore m]

/-- Reads the text of the file that a path leads to. -/
def readText (p : Path) : m (Except FileError String) := do
  match ← read p with
  | .ok bytes =>
    match Text.decode? bytes with
    | some s => pure (.ok s)
    | none => pure (.error .notText)
  | .error e => pure (.error e)

/-- Makes a directory, or is content with one that is there. -/
def settleDirectory (p : Path) : m (Except FileError Unit) := do
  match ← makeDirectory p with
  | .ok () => pure (.ok ())
  | .error e =>
    if e = .alreadyThere then
      if ← isDirectory p then pure (.ok ()) else pure (.error e)
    else pure (.error e)

/-- Goes up a list of paths, each the parent of the one before, until a directory can be made or is
there; the result is the paths passed on the way. -/
def climb : List Path → m (Except FileError (List Path))
  | [] => pure (.ok [])
  | p :: above => do
    if p.text = "" then pure (.ok [])
    else
      match ← settleDirectory p with
      | .ok () => pure (.ok [])
      | .error .notFound => do
        match ← climb above with
        | .ok passed => pure (.ok (p :: passed))
        | .error e => pure (.error e)
      | .error e => pure (.error e)

/-- Makes directories one after the other, up to the first that cannot be made. -/
def settleAll : List Path → m (Except FileError Unit)
  | [] => pure (.ok ())
  | p :: ps => do
    match ← settleDirectory p with
    | .ok () => settleAll ps
    | .error e => pure (.error e)

/-- Makes a directory and those above it that are missing. -/
def makeDirectories (p : Path) : m (Except FileError Unit) := do
  match ← climb p.ancestors with
  | .ok passed => settleAll passed.reverse
  | .error e => pure (.error e)

end Groundwork.FileStore
