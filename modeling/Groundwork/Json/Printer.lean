import Groundwork.Json.Basic

/-!
# Printing JSON

`Json.print` writes a document over several lines: every item of a list and every member of an
object has a line of its own, two blanks further in than its surroundings. An empty list or object
stays on its line.
-/

namespace Groundwork.Json

/-- The spelling of a character inside a text. -/
def spell (c : Char) : List Char :=
  match c with
  | '"' => ['\\', '"']
  | '\\' => ['\\', '\\']
  | '\x08' => ['\\', 'b']
  | '\x0c' => ['\\', 'f']
  | '\n' => ['\\', 'n']
  | '\r' => ['\\', 'r']
  | '\t' => ['\\', 't']
  | c =>
    if c < ' ' then
      ['\\', 'u', '0', '0', Nat.digitChar (c.toNat / 16), Nat.digitChar (c.toNat % 16)]
    else [c]

/-- A text in quotation marks. -/
def quote (cs : List Char) : List Char := '"' :: (cs.flatMap spell ++ ['"'])

/-- The end of a line and the beginning of one that is `depth` steps further in. -/
def newLine (depth : Nat) : List Char := '\n' :: List.replicate (2 * depth) ' '

mutual

/-- The text of a value on a line that is `depth` steps further in. -/
def print (depth : Nat) : Json → List Char
  | null => "null".toList
  | boolean b => (if b then "true" else "false").toList
  | number literal => literal.toList
  | text s => quote s.toList
  | list [] => ['[', ']']
  | list (item :: items) =>
    '[' :: newLine (depth + 1) ++ print (depth + 1) item ++ printItems (depth + 1) items
      ++ newLine depth ++ [']']
  | object [] => ['\x7b', '\x7d']
  | object ((name, value) :: members) =>
    '\x7b' :: newLine (depth + 1) ++ quote name.toList ++ [':', ' '] ++ print (depth + 1) value
      ++ printMembers (depth + 1) members ++ newLine depth ++ ['\x7d']

/-- The text of the items after the first one. -/
def printItems (depth : Nat) : List Json → List Char
  | [] => []
  | item :: items => ',' :: newLine depth ++ print depth item ++ printItems depth items

/-- The text of the members after the first one. -/
def printMembers (depth : Nat) : List (String × Json) → List Char
  | [] => []
  | (name, value) :: members =>
    ',' :: newLine depth ++ quote name.toList ++ [':', ' '] ++ print depth value
      ++ printMembers depth members

end

end Groundwork.Json
