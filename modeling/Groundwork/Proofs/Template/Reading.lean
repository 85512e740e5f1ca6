import Groundwork.Template.Node

/-!
# Rules of reading templates

What each kind of chunk does to the nodes and frames read so far, so that a template can be read
chunk by chunk without a look at the cases of the reader, and the expressions that consist of a word
or of a member of one.
-/

namespace Groundwork.Template

/-! ## Expressions -/

namespace Expr

/-- A word that an expression reads as a name. -/
structure IsName (s : String) : Prop where
  ne_not : s ≠ "not"
  ofWord_eq : ofWord s = name s

variable (level : Level) {s : String}

theorem ofTokens?_name (h : IsName s) : ofTokens? level [.word s] = some (name s) := by
  simp [ofTokens?, read, operand, follow, modify, extend, h.ne_not, h.ofWord_eq]

theorem ofTokens?_member (key : String) (h : IsName s) :
    ofTokens? level [.word s, .dot, .word key] = some (member (name s) key) := by
  simp [ofTokens?, read, operand, follow, modify, extend, h.ne_not, h.ofWord_eq]

end Expr

/-! ## Chunks -/

namespace Node

section Read

variable {nodes before yes : List Node} {frames : List Frame} {condition items e : Expr}
  {name s : String} {ts : List Token} {c : Chunk} {cs : List Chunk} {n n' : Nesting}

theorem foldlM_cons_of_step (h : step n c = some n') :
    (c :: cs).foldlM step n = cs.foldlM step n' := by
  rw [List.foldlM_cons, h]
  rfl

theorem foldlM_append_of_foldlM {cs' : List Chunk} (h : cs.foldlM step n = some n') :
    (cs ++ cs').foldlM step n = cs'.foldlM step n' := by
  rw [List.foldlM_append, h]
  rfl

theorem read_text :
    (.text s :: cs).foldlM step ⟨nodes, frames⟩ =
      cs.foldlM step ⟨nodes ++ [.text s], frames⟩ :=
  foldlM_cons_of_step rfl

theorem read_expression (h : Expr.ofTokens? .choice ts = some e) :
    (.expression ts :: cs).foldlM step ⟨nodes, frames⟩ =
      cs.foldlM step ⟨nodes ++ [.print e], frames⟩ :=
  foldlM_cons_of_step (by rw [step, h]; rfl)

/-! ### Choices -/

theorem read_if (h : Expr.ofTokens? .or ts = some e) :
    (.instruction (.word "if" :: ts) :: cs).foldlM step ⟨nodes, frames⟩ =
      cs.foldlM step ⟨[], .yes nodes e :: frames⟩ :=
  foldlM_cons_of_step (by rw [step, instruct, h]; rfl)

theorem read_elif (h : Expr.ofTokens? .or ts = some e) :
    (.instruction (.word "elif" :: ts) :: cs).foldlM step
        ⟨nodes, .yes before condition :: frames⟩ =
      cs.foldlM step ⟨[], .yes [] e :: .chained before condition nodes :: frames⟩ :=
  foldlM_cons_of_step (by rw [step, instruct, h]; rfl)

theorem read_else :
    (.instruction [.word "else"] :: cs).foldlM step ⟨nodes, .yes before condition :: frames⟩ =
      cs.foldlM step ⟨[], .no before condition nodes :: frames⟩ :=
  foldlM_cons_of_step rfl

theorem read_endif_yes :
    (.instruction [.word "endif"] :: cs).foldlM step ⟨nodes, .yes before condition :: frames⟩ =
      cs.foldlM step (endChoice before (.choose condition nodes []) frames) :=
  foldlM_cons_of_step rfl

theorem read_endif_no :
    (.instruction [.word "endif"] :: cs).foldlM step
        ⟨nodes, .no before condition yes :: frames⟩ =
      cs.foldlM step (endChoice before (.choose condition yes nodes) frames) :=
  foldlM_cons_of_step rfl

/-! ### Loops -/

theorem read_for (hname : name ∉ reserved) (h : Expr.ofTokens? .or ts = some e) :
    (.instruction (.word "for" :: .word name :: .word "in" :: ts) :: cs).foldlM step
        ⟨nodes, frames⟩ =
      cs.foldlM step ⟨[], .body nodes name e :: frames⟩ := by
  refine foldlM_cons_of_step ?_
  simp only [step, instruct, List.contains_iff_mem, hname, if_false, h]
  rfl

theorem read_endfor :
    (.instruction [.word "endfor"] :: cs).foldlM step
        ⟨nodes, .body before name items :: frames⟩ =
      cs.foldlM step ⟨before ++ [.each name items nodes []], frames⟩ :=
  foldlM_cons_of_step rfl

end Read

/-! ### Ends of choices -/

section Ends

variable (before before' nodes : List Node) (node : Node) (frames : List Frame)
  (condition items : Expr) (name : String)

theorem endChoice_nil : endChoice before node [] = ⟨before ++ [node], []⟩ := rfl

theorem endChoice_body :
    endChoice before node (.body before' name items :: frames) =
      ⟨before ++ [node], .body before' name items :: frames⟩ := rfl

theorem endChoice_chained :
    endChoice before node (.chained before' condition nodes :: frames) =
      endChoice before' (.choose condition nodes (before ++ [node])) frames := rfl

end Ends

end Node

end Groundwork.Template
