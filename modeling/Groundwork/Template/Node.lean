import Groundwork.Template.Chunk
import Groundwork.Template.Expr

/-!
# Nodes of a template

The instructions of a template come in pairs that nest: what stands between `if` and `endif` is a
choice, and what stands between `for` and `endfor` is a loop. `Node.ofChunks?` goes through the
chunks once, keeping the choices and loops that have begun and not ended as a stack of frames, and
refuses a template whose instructions do not pair up or cannot be read.
-/

namespace Groundwork.Template

/-- A part of a template. -/
inductive Node
  /-- Text to print. -/
  | text (s : String)
  /-- An expression whose value is to be printed. -/
  | print (e : Expr)
  /-- The nodes `yes` if a condition holds, and `no` if not. -/
  | choose (condition : Expr) (yes no : List Node)
  /-- The nodes `body` for each of some items in turn, which `name` stands for, and `otherwise` if
  there are none. -/
  | each (name : String) (items : Expr) (body otherwise : List Node)

namespace Node

/-! ## Choices and loops under way -/

/-- A choice or loop that has begun and not ended, with the nodes before it. -/
inductive Frame
  /-- A choice in its first branch. -/
  | yes (before : List Node) (condition : Expr)
  /-- A choice in its second branch. -/
  | no (before : List Node) (condition : Expr) (yes : List Node)
  /-- A choice whose second branch is the choice in the frame above. -/
  | chained (before : List Node) (condition : Expr) (yes : List Node)
  /-- A loop in its body. -/
  | body (before : List Node) (name : String) (items : Expr)
  /-- A loop in its alternative. -/
  | otherwise (before : List Node) (name : String) (items : Expr) (body : List Node)

/-- How far the reading of a template has come. -/
structure Nesting where
  /-- The nodes read in the innermost frame. -/
  nodes : List Node
  /-- The frames, the innermost first. -/
  frames : List Frame

/-- The nesting after the choice `node` has ended with `before` before it: a choice that it is
chained to ends as well. -/
def endChoice (before : List Node) (node : Node) : List Frame → Nesting
  | .chained before' condition yes :: frames =>
    endChoice before' (.choose condition yes (before ++ [node])) frames
  | frames => ⟨before ++ [node], frames⟩

/-- The words that cannot be the name of an item. -/
def reserved : List String := ["true", "True", "false", "False", "none", "None", "loop", "self"]

/-- The nesting after an instruction, if it can stand there. -/
def instruct : Nesting → List Token → Option Nesting
  | ⟨nodes, frames⟩, .word "if" :: ts => do
    let condition ← Expr.ofTokens? .or ts
    pure ⟨[], .yes nodes condition :: frames⟩
  | ⟨nodes, .yes before condition :: frames⟩, .word "elif" :: ts => do
    let condition' ← Expr.ofTokens? .or ts
    pure ⟨[], .yes [] condition' :: .chained before condition nodes :: frames⟩
  | ⟨nodes, .yes before condition :: frames⟩, [.word "else"] =>
    some ⟨[], .no before condition nodes :: frames⟩
  | ⟨nodes, .yes before condition :: frames⟩, [.word "endif"] =>
    some (endChoice before (.choose condition nodes []) frames)
  | ⟨nodes, .no before condition yes :: frames⟩, [.word "endif"] =>
    some (endChoice before (.choose condition yes nodes) frames)
  | ⟨nodes, frames⟩, .word "for" :: .word name :: .word "in" :: ts =>
    if reserved.contains name then none
    else do
      let items ← Expr.ofTokens? .or ts
      pure ⟨[], .body nodes name items :: frames⟩
  | ⟨nodes, .body before name items :: frames⟩, [.word "else"] =>
    some ⟨[], .otherwise before name items nodes :: frames⟩
  | ⟨nodes, .body before name items :: frames⟩, [.word "endfor"] =>
    some ⟨before ++ [.each name items nodes []], frames⟩
  | ⟨nodes, .otherwise before name items body :: frames⟩, [.word "endfor"] =>
    some ⟨before ++ [.each name items body nodes], frames⟩
  | _, _ => none

/-- The nesting after one more chunk. -/
def step (n : Nesting) : Chunk → Option Nesting
  | .text s => some { n with nodes := n.nodes ++ [.text s] }
  | .expression ts => do
    let e ← Expr.ofTokens? .choice ts
    pure { n with nodes := n.nodes ++ [.print e] }
  | .instruction ts => instruct n ts

/-! ## Whole templates -/

/-- The nodes that the chunks of a template make up. -/
def ofChunks? (chunks : List Chunk) : Option (List Node) := do
  let n ← chunks.foldlM step ⟨[], []⟩
  if n.frames.isEmpty then pure n.nodes else none

/-- The nodes of a template, if it can be read. -/
def ofSource? (source : String) : Option (List Node) := do
  let chunks ← Chunk.ofSource? source
  ofChunks? chunks

end Node

end Groundwork.Template
