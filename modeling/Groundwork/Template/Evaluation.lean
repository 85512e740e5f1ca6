import Groundwork.Template.Expr

/-!
# Values of expressions

What an expression stands for, given what names stand for. Nothing is made up for what does not
exist: an undefined value can be passed on and compared, but to print it, to test it, to loop over
it or to ask for one of its members is a problem. Only what is needed is evaluated: the second part
of `and` and `or` when the first does not decide, and one branch of a choice.
-/

namespace Groundwork.Template

/-- The problem for which a template cannot be rendered. -/
inductive Problem
  /-- The template cannot be read as a template. -/
  | malformed
  /-- An undefined value is used. -/
  | undefined
  /-- A value is used in a way that its kind does not allow, or the template cannot be loaded. -/
  | invalid
  /-- There is no such filter. -/
  | unknownFilter
  /-- There is no such test. -/
  | unknownTest
  deriving DecidableEq, Repr

/-- What names stand for; the first entry for a name counts. -/
abbrev Scope := List (String × Value)

namespace Value

/-- The value, provided that it is defined. -/
def defined : Value → Except Problem Value
  | undefined => .error .undefined
  | v => .ok v

/-- Whether a value counts as true, provided that it is defined. -/
def holds (v : Value) : Except Problem Bool := v.defined.map isTrue

/-- The text that prints a value, provided that it is defined. -/
def print (v : Value) : Except Problem String := v.defined.map printed

/-- The items of a value, provided that it is defined and can be looped over. -/
def loop (v : Value) : Except Problem (List Value) := do
  match (← v.defined).items? with
  | some items => pure items
  | none => throw .invalid

/-- The member `key` of a value, provided that the value is defined. -/
def get (key : String) (v : Value) : Except Problem Value := v.defined.map (·.member key)

/-- The value with its sign turned, if it is a whole number. -/
def negate : Value → Except Problem Value
  | integer n => .ok (integer (-n))
  | _ => .error .invalid

/-- The items of a value printed one after the other with a separator between them. There is nothing
to join in a value that does not exist or stands for nothing. -/
def join (separator : String) : Value → Except Problem Value
  | undefined | nothing => .ok (text "")
  | v =>
    match v.items? with
    | some items => .ok (text (String.intercalate separator (items.map printed)))
    | none => .error .invalid

/-- The value put through the filter `name`. -/
def filter (name : String) (argument : Option Value) (v : Value) : Except Problem Value :=
  if name = "join" then
    match argument with
    | some .nothing | none => join "" v
    | some separator => join separator.printed v
  else .error .unknownFilter

/-- Whether the value passes the test `name`. -/
def passes (name : String) (v : Value) : Except Problem Bool :=
  if name = "none" then
    match v with
    | nothing => .ok true
    | _ => .ok false
  else .error .unknownTest

end Value

namespace Expr

/-- The value of an expression. -/
def value (scope : Scope) : Expr → Except Problem Value
  | literal v => .ok v
  | name s => .ok ((scope.lookup s).getD .undefined)
  | member e key => do (← e.value scope).get key
  | negative e => do (← e.value scope).negate
  | not e => do
    let b ← (← e.value scope).holds
    pure (.boolean !b)
  | and e f => do
    let v ← e.value scope
    if ← v.holds then f.value scope else pure v
  | or e f => do
    let v ← e.value scope
    if ← v.holds then pure v else f.value scope
  | equal e f => do
    let v ← e.value scope
    let w ← f.value scope
    pure (.boolean (v.equal w))
  | differ e f => do
    let v ← e.value scope
    let w ← f.value scope
    pure (.boolean !(v.equal w))
  | passes e test => do
    let b ← (← e.value scope).passes test
    pure (.boolean b)
  | filtered e filter => do (← e.value scope).filter filter none
  | filteredWith e filter argument => do
    let v ← e.value scope
    let a ← argument.value scope
    v.filter filter (some a)
  | choice condition e f => do
    if ← (← condition.value scope).holds then e.value scope else f.value scope

end Expr

end Groundwork.Template
