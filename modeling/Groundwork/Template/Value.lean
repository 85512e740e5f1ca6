/-!
# Values of templates

What the names and expressions of a template stand for. `Value.undefined` is the value of a name or
member that does not exist; it can be passed on and compared, but neither printed nor tested.
-/

namespace Groundwork.Template

/-- A value in a template. -/
inductive Value
  /-- The value of what does not exist. -/
  | undefined
  /-- The value that stands for nothing. -/
  | nothing
  | boolean (b : Bool)
  | integer (n : Int)
  | text (s : String)
  | list (items : List Value)
  /-- Members by name. -/
  | record (members : List (String × Value))
  deriving Inhabited

namespace Value

/-! ## Members and items -/

/-- The member called `key`; a value that is no record has no members. -/
def member : Value → String → Value
  | record members, key => (members.lookup key).getD undefined
  | _, _ => undefined

/-- The items that a loop over a value goes through, if it can be looped over. -/
def items? : Value → Option (List Value)
  | nothing => some []
  | text s => some (s.toList.map fun c => text c.toString)
  | list items => some items
  | record members => some (members.map fun m => text m.1)
  | _ => none

/-- Whether a value counts as true. -/
def isTrue : Value → Bool
  | undefined | nothing => false
  | boolean b => b
  | integer n => n != 0
  | text s => !s.isEmpty
  | list items => !items.isEmpty
  | record members => !members.isEmpty

/-! ## Equality -/

/-- A value as a number, where truth values count as one and zero. -/
def number? : Value → Option Int
  | boolean b => some (if b then 1 else 0)
  | integer n => some n
  | _ => none

mutual

/-- Equality of values. Truth values equal the numbers that they count as. -/
def equal : Value → Value → Bool
  | undefined, undefined | nothing, nothing => true
  | text s, text t => s == t
  | list xs, list ys => equalItems xs ys
  | record ms, record ns => equalMembers ms ns
  | v, w =>
    match v.number?, w.number? with
    | some m, some n => m == n
    | _, _ => false

/-- Equality of lists, item by item. -/
def equalItems : List Value → List Value → Bool
  | [], [] => true
  | x :: xs, y :: ys => equal x y && equalItems xs ys
  | _, _ => false

/-- Equality of records that list their members in the same order. -/
def equalMembers : List (String × Value) → List (String × Value) → Bool
  | [], [] => true
  | (k, x) :: ms, (l, y) :: ns => k == l && equal x y && equalMembers ms ns
  | _, _ => false

end

/-! ## Printing -/

mutual

/-- The form of a value inside the printed form of a list or record. -/
def innerText : Value → String
  | undefined => ""
  | nothing => "None"
  | boolean b => if b then "True" else "False"
  | integer n => toString n
  | text s => "'" ++ s ++ "'"
  | list items => "[" ++ String.intercalate ", " (itemTexts items) ++ "]"
  | record members => "\x7b" ++ String.intercalate ", " (memberTexts members) ++ "\x7d"

/-- The inner forms of the items of a list. -/
def itemTexts : List Value → List String
  | [] => []
  | v :: vs => innerText v :: itemTexts vs

/-- The inner forms of the members of a record. -/
def memberTexts : List (String × Value) → List String
  | [] => []
  | (k, v) :: ms => ("'" ++ k ++ "': " ++ innerText v) :: memberTexts ms

end

/-- The form in which a value is printed: a text as it is, a whole number in decimal. -/
def printed : Value → String
  | text s => s
  | v => v.innerText

end Value

end Groundwork.Template
