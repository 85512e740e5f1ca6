import Groundwork.Text.Character

/-!
# Snake case

Words of a name separated by underscores, in ASCII lower case. A word begins at a character without
an ASCII lower-case form that has a lower-case neighbour; the neighbours are looked up in the whole
name at the places next to the character's *byte* offset, which in a name with characters of several
bytes lie further right than the character itself.
-/

namespace Groundwork.Inflection

open Text

/-- Whether the character at index `i`, if there is one, is a lower-case letter. -/
def lowercaseAt (cs : List Char) (i : Nat) : Bool := cs[i]?.any isLowercase

/-- The snake case of `rest`, which starts at byte `offset` of `name`; `fresh` says that no word is
under way. -/
def snakeFrom (name : List Char) (fresh : Bool) (offset : Nat) : List Char → List Char
  | [] => []
  | c :: rest =>
    let next := offset + c.utf8Size
    if !isAlphanumeric c then
      if fresh then snakeFrom name true next rest else '_' :: snakeFrom name true next rest
    else if !fresh && asciiUpper c == c
        && (lowercaseAt name (offset + 1) || lowercaseAt name (offset - 1)) then
      '_' :: asciiLower c :: snakeFrom name false next rest
    else asciiLower c :: snakeFrom name false next rest

/-- The snake case of a name; what follows its last letter or number is dropped. -/
def snakeChars (name : List Char) : List Char :=
  snakeFrom name true 0 (name.reverse.dropWhile (!isAlphanumeric ·)).reverse

/-- The snake case of a name. -/
def snake (name : String) : String := String.ofList (snakeChars name.toList)

@[simp] theorem toList_snake (name : String) : (snake name).toList = snakeChars name.toList :=
  String.toList_ofList

end Groundwork.Inflection
