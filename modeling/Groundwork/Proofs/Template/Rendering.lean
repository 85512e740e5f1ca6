import Groundwork.Proofs.Text.Split
import Groundwork.Template.Library
import Groundwork.Template.Rendering

/-!
# Rules of rendering

What the parts of a template make, one rule for each kind of node, so that the text that a template
makes can be put together from its nodes without a look at the interpreter. A loop whose body makes
a text for each item makes these texts one after the other (`render_each`).

The texts are lists of lines as often as not: `Library.ofLines` turns appending lists of lines into
appending texts (`ofLines_append`), and the texts of a loop whose body makes whole lines are such a
list (`join_map_line`). The lines can be read off the text again if none of them holds a line feed
(`lines_ofLines`).
-/

namespace Groundwork.Template

/-! ## Values -/

namespace Value

@[simp] theorem printed_text (s : String) : (text s).printed = s := rfl

@[simp] theorem isTrue_boolean (b : Bool) : (boolean b).isTrue = b := rfl

end Value

/-! ## Nodes -/

namespace Node

variable {scope : Scope} {e : Expr} {v : Value} {s t : String} {n : Node} {ns yes no : List Node}

@[simp] theorem renderAll_nil : renderAll scope [] = .ok "" := by
  rw [renderAll]

theorem renderAll_cons (hn : render scope n = .ok s) (hns : renderAll scope ns = .ok t) :
    renderAll scope (n :: ns) = .ok (s ++ t) := by
  rw [renderAll, hn, hns]
  rfl

theorem renderAll_singleton (hn : render scope n = .ok s) : renderAll scope [n] = .ok s := by
  rw [renderAll_cons hn renderAll_nil, String.append_empty]

theorem renderAll_append {ns' : List Node} (hns : renderAll scope ns = .ok s)
    (hns' : renderAll scope ns' = .ok t) : renderAll scope (ns ++ ns') = .ok (s ++ t) := by
  induction ns generalizing s with
  | nil =>
    obtain rfl : "" = s := by simpa using hns
    rwa [List.nil_append, String.empty_append]
  | cons n ns ih =>
    rw [renderAll] at hns
    rcases hn : render scope n with e | u
    · simp [hn, bind, Except.bind] at hns
    · rcases hu : renderAll scope ns with e | v
      · simp [hn, hu, bind, Except.bind] at hns
      · obtain rfl : u ++ v = s := by
          simpa [hn, hu, bind, Except.bind, pure, Except.pure] using hns
        rw [List.cons_append, renderAll_cons hn (ih hu), String.append_assoc]

@[simp] theorem render_text : render scope (.text s) = .ok s := by
  rw [render]

theorem render_print (h : e.value scope = .ok v) (hv : v ≠ .undefined) :
    render scope (.print e) = .ok v.printed := by
  rw [render, h]
  cases v <;> first | rfl | exact absurd rfl hv

/-- A choice makes what the branch makes that its condition selects. -/
theorem render_choose (h : e.value scope = .ok v) (hv : v ≠ .undefined)
    (hyes : renderAll scope yes = .ok s) (hno : renderAll scope no = .ok t) :
    render scope (.choose e yes no) = .ok (if v.isTrue then s else t) := by
  have hholds : v.holds = .ok v.isTrue := by
    cases v <;> first | rfl | exact absurd rfl hv
  rw [render, h]
  simp only [bind, Except.bind, hholds]
  split
  · exact hyes
  · exact hno

section Loops

variable {α : Type} {name : String} {body : List Node} {value : α → Value} {line : α → String}

theorem mapM_renderAll (hbody : ∀ x, renderAll ((name, value x) :: scope) body = .ok (line x))
    (xs : List α) :
    ((xs.map value).mapM fun v => renderAll ((name, v) :: scope) body) = .ok (xs.map line) := by
  induction xs with
  | nil => rfl
  | cons x xs ih =>
    rw [List.map_cons, List.mapM_cons, hbody, ih]
    rfl

/-- A loop makes what its body makes for each of the items, one after the other. -/
theorem render_each {xs : List α} (h : e.value scope = .ok (.list (xs.map value)))
    (hbody : ∀ x, renderAll ((name, value x) :: scope) body = .ok (line x)) :
    render scope (.each name e body []) = .ok (String.join (xs.map line)) := by
  rw [render, h]
  cases xs with
  | nil => exact @renderAll_nil scope
  | cons x xs =>
    have hxs := mapM_renderAll hbody (x :: xs)
    rw [List.map_cons] at hxs
    simp only [bind, Except.bind, Value.loop, Value.defined, Value.items?, List.map_cons, pure,
      Except.pure] at hxs ⊢
    rw [hxs]

end Loops

end Node

/-! ## Lines -/

namespace Library

variable {α : Type}

@[simp] theorem ofLines_nil : ofLines [] = "" := rfl

@[simp] theorem ofLines_cons (line : String) (lines : List String) :
    ofLines (line :: lines) = line ++ "\n" ++ ofLines lines := by
  apply String.toList_inj.1
  simp only [ofLines, List.flatMap_cons, String.toList_ofList, String.toList_append]
  rfl

@[simp] theorem ofLines_append (lines lines' : List String) :
    ofLines (lines ++ lines') = ofLines lines ++ ofLines lines' := by
  apply String.toList_inj.1
  simp only [ofLines, List.flatMap_append, String.toList_ofList, String.toList_append]

theorem ofLines_ite (c : Bool) (lines : List String) :
    ofLines (if c then lines else []) = if c then ofLines lines else "" := by
  cases c <;> rfl

theorem join_map_line (line : α → String) (xs : List α) :
    String.join (xs.map fun x => line x ++ "\n") = ofLines (xs.map line) := by
  induction xs with
  | nil => rfl
  | cons x xs ih => rw [List.map_cons, String.join_cons, ih, List.map_cons, ofLines_cons]

theorem join_map_line_filter (p : α → Bool) (line : α → String) (xs : List α) :
    String.join (xs.map fun x => if p x then line x ++ "\n" else "") =
      ofLines ((xs.filter p).map line) := by
  induction xs with
  | nil => rfl
  | cons x xs ih =>
    rw [List.map_cons, String.join_cons, ih]
    by_cases h : p x = true
    · simp [h]
    · simp [h]

section Feeds

variable {lines : List String}

theorem toList_ofLines_cons (line : String) (lines : List String) :
    (ofLines (line :: lines)).toList = line.toList ++ '\n' :: (ofLines lines).toList := by
  simp only [ofLines, List.flatMap_cons, String.toList_ofList, List.append_assoc,
    List.cons_append, List.nil_append]

theorem mem_ofLines {c : Char} (h : c ∈ (ofLines lines).toList) :
    c = '\n' ∨ ∃ line ∈ lines, c ∈ line.toList := by
  rw [ofLines, String.toList_ofList, List.mem_flatMap] at h
  obtain ⟨line, hl, h⟩ := h
  rw [List.mem_append, List.mem_singleton] at h
  exact h.symm.imp_right fun h => ⟨line, hl, h⟩

/-- Lines without line feeds are the lines of their text. -/
theorem lines_ofLines (h : ∀ line ∈ lines, '\n' ∉ line.toList) :
    Text.lines (ofLines lines).toList = lines.map String.toList := by
  induction lines with
  | nil => rfl
  | cons line lines ih =>
    rw [List.forall_mem_cons] at h
    rw [toList_ofLines_cons, Text.lines_append_cons, Text.pieces_of_not_mem h.1, ih h.2]
    rfl

/-- A line without line feeds is a line of its text, whatever the other lines are. -/
theorem mem_lines_ofLines {line : String} (hl : line ∈ lines) (hn : '\n' ∉ line.toList) :
    line.toList ∈ Text.lines (ofLines lines).toList := by
  induction lines with
  | nil => simp at hl
  | cons first lines ih =>
    rw [toList_ofLines_cons, Text.lines_append_cons, List.mem_append]
    rcases List.mem_cons.1 hl with rfl | hl
    · exact .inl (by rw [Text.pieces_of_not_mem hn]; exact List.mem_singleton_self _)
    · exact .inr (ih hl)

/-- A text of lines without line feeds has a line feed for each of them. -/
theorem count_ofLines (h : ∀ line ∈ lines, '\n' ∉ line.toList) :
    (ofLines lines).toList.count '\n' = lines.length := by
  induction lines with
  | nil => rfl
  | cons line lines ih =>
    rw [List.forall_mem_cons] at h
    rw [toList_ofLines_cons, List.count_append, List.count_eq_zero.2 h.1, List.count_cons_self,
      ih h.2, List.length_cons, Nat.zero_add]

end Feeds

end Library

end Groundwork.Template
