import Groundwork.Text.Split

/-!
# Paths

A path is kept as it was written, because that is how it is shown to the user. What it means is
found in its segments: the texts between its slashes. A segment that is empty or a single point
changes nothing and is *idle*, save a point at the very beginning, which stands for the directory
that one is in. Paths are taken apart by their text alone, so the parent of `a/..` is `a`.
-/

namespace Groundwork

/-- A path, as written. -/
structure Path where
  /-- The text of the path. -/
  text : String
  deriving DecidableEq, Repr

namespace Path

open Text

/-! ## Joining -/

/-- Whether `cs` begins at the root. -/
def isAbsoluteChars (cs : List Char) : Bool := cs.head? == some '/'

/-- The path `rest` as seen from `base`. One slash is put between them, if `base` has none at its
end; a path that begins at the root is not changed. -/
def joinChars (base rest : List Char) : List Char :=
  if isAbsoluteChars rest then rest
  else if base.getLast?.all (· == '/') then base ++ rest
  else base ++ '/' :: rest

/-- The path `rest` as seen from `base`. -/
def join (base rest : Path) : Path :=
  ⟨String.ofList (joinChars base.text.toList rest.text.toList)⟩

/-! ## Segments -/

/-- A segment that does not change where a path leads. -/
def isIdle (segment : List Char) : Bool := segment == [] || segment == ['.']

/-- What a path begins with before its segments: a slash for the root, a point for the directory
that one is in, or nothing. -/
def lead : List Char → List Char
  | '/' :: _ => ['/']
  | ['.'] => ['.']
  | '.' :: '/' :: _ => ['.']
  | _ => []

/-- The segments after the lead of a path, the last one first. -/
def segments (cs : List Char) : List (List Char) :=
  (pieces '/' (cs.drop (lead cs).length)).reverse

/-- The path with a lead and segments, the last one first; idle ones at the end are left out. -/
def ofSegments (lead : List Char) (segments : List (List Char)) : Path :=
  ⟨String.ofList (lead ++ joinPieces '/' (segments.dropWhile isIdle).reverse)⟩

/-- The last segment that is not idle, unless it leads to a parent. -/
def fileName? (p : Path) : Option String :=
  match (segments p.text.toList).dropWhile isIdle with
  | [] | ['.', '.'] :: _ => none
  | s :: _ => some (String.ofList s)

/-- The paths above the one with a lead and segments, the nearest first. -/
def above (lead : List Char) : List (List Char) → List Path
  | [] => if lead = ['.'] then [⟨""⟩] else []
  | s :: segments =>
    if isIdle s then above lead segments else ofSegments lead segments :: above lead segments

/-- The paths above a path, the nearest first. -/
def parents (p : Path) : List Path := above (lead p.text.toList) (segments p.text.toList)

/-- The path above a path, if there is one. -/
def parent? (p : Path) : Option Path := p.parents.head?

/-- A path and the paths above it. -/
def ancestors (p : Path) : List Path := p :: p.parents

/-- Whether a path only goes down: it begins neither at the root nor with a point, and no segment
of it leads to a parent. -/
def goesDown (p : Path) : Bool :=
  lead p.text.toList == [] && (segments p.text.toList).all (· != ['.', '.'])

/-! ## Steps -/

/-- The segments to follow one after the other, without the empty ones. -/
def steps (p : Path) : List String :=
  ((pieces '/' p.text.toList).filter (· != [])).map String.ofList

/-- Whether the path begins at the root. -/
def isAbsolute (p : Path) : Bool := isAbsoluteChars p.text.toList

/-- Whether the path ends with a slash, which asks for a directory. -/
def endsWithSlash (p : Path) : Bool := p.text.toList.getLast? == some '/'

end Path

end Groundwork
