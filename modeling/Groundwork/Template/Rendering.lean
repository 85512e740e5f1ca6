import Groundwork.Template.Evaluation
import Groundwork.Template.Node

/-!
# Rendering

The text that a template makes in a scope. A template that cannot be read makes none, wherever the
fault is; a template that can be read fails only at what is reached.
-/

namespace Groundwork.Template

namespace Node

mutual

/-- The text that a node makes. -/
def render (scope : Scope) : Node → Except Problem String
  | text s => .ok s
  | print e => do (← e.value scope).print
  | choose condition yes no => do
    if ← (← condition.value scope).holds then renderAll scope yes else renderAll scope no
  | each name items body otherwise => do
    match ← (← items.value scope).loop with
    | [] => renderAll scope otherwise
    | vs => do
      let texts ← vs.mapM fun v => renderAll ((name, v) :: scope) body
      pure (String.join texts)

/-- The texts that some nodes make, one after the other. -/
def renderAll (scope : Scope) : List Node → Except Problem String
  | [] => .ok ""
  | n :: ns => do
    let s ← render scope n
    let t ← renderAll scope ns
    pure (s ++ t)

end

end Node

/-- The text that the template `source` makes in a scope. -/
def render (source : String) (scope : Scope) : Except Problem String :=
  match Node.ofSource? source with
  | some nodes => Node.renderAll scope nodes
  | none => .error .malformed

end Groundwork.Template
