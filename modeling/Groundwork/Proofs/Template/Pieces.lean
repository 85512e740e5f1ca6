import Groundwork.Proofs.Template.Reading
import Groundwork.Proofs.Template.Rendering

/-!
# Templates without instructions

Much of a template consists of lines in which nothing but names is filled in. Such lines are given
as lists of *pieces*, a piece being a text or a name, and `Piece.lines` are the lines that they make
when the names are filled in. A reader of templates does not see the lines: it meets the pieces with
all neighbouring texts put together (`Piece.ofLines`). They are read as the nodes that one expects
(`Node.read_pieces`), and these make the lines (`Node.renderAll_pieces`).
-/

namespace Groundwork.Template

/-- A piece of a line of a template. -/
inductive Piece
  /-- A text. -/
  | text (s : String)
  /-- A name that is filled in. -/
  | name (word : String)
  deriving DecidableEq

namespace Piece

variable {pieces : List Piece} {value : String → String}

/-- The chunk that a piece is read from. -/
def chunk : Piece → Chunk
  | text s => .text s
  | name word => .expression [.word word]

/-- The node that a piece is read as. -/
def node : Piece → Node
  | text s => .text s
  | name word => .print (.name word)

/-- The text of a piece, its name being filled in. -/
def fill (value : String → String) : Piece → String
  | text s => s
  | name word => value word

/-- The names among pieces. -/
def words : List Piece → List String
  | [] => []
  | text _ :: pieces => words pieces
  | name word :: pieces => word :: words pieces

/-- Pieces with neighbouring texts put together. -/
def merge : List Piece → List Piece
  | [] => []
  | name word :: pieces => name word :: merge pieces
  | text s :: pieces =>
    match merge pieces with
    | text t :: rest => text (s ++ t) :: rest
    | rest => text s :: rest

/-- The pieces of the text of some lines. -/
def ofLines (lines : List (List Piece)) : List Piece :=
  merge (lines.flatMap fun line => line ++ [text "\n"])

/-- The lines that lines of pieces make. -/
def lines (value : String → String) (lines : List (List Piece)) : List String :=
  lines.map fun line => String.join (line.map (fill value))

theorem join_merge (value : String → String) (pieces : List Piece) :
    String.join ((merge pieces).map (fill value)) = String.join (pieces.map (fill value)) := by
  induction pieces with
  | nil => rfl
  | cons piece pieces ih =>
    cases piece with
    | name word => rw [merge, List.map_cons, String.join_cons, ih, List.map_cons, String.join_cons]
    | text s =>
      rw [merge, List.map_cons, String.join_cons, ← ih]
      split
      · next t rest hm =>
        simp only [hm, List.map_cons, String.join_cons, fill, String.append_assoc]
      · rw [List.map_cons, String.join_cons]

theorem words_append (pieces pieces' : List Piece) :
    words (pieces ++ pieces') = words pieces ++ words pieces' := by
  induction pieces with
  | nil => rfl
  | cons piece pieces ih => cases piece <;> simp [words, ih]

theorem words_merge (pieces : List Piece) : words (merge pieces) = words pieces := by
  induction pieces with
  | nil => rfl
  | cons piece pieces ih =>
    cases piece with
    | name word => rw [merge, words, ih, words]
    | text s =>
      rw [merge, words, ← ih]
      split
      · next hm => rw [hm, words, words]
      · rw [words]

/-- The names in the text of some lines are those in the lines. -/
theorem words_ofLines (ls : List (List Piece)) : words (ofLines ls) = ls.flatMap words := by
  rw [ofLines, words_merge]
  induction ls with
  | nil => rfl
  | cons line ls ih =>
    rw [List.flatMap_cons, List.flatMap_cons, words_append, words_append, ih]
    simp [words]

/-- Filled in, the pieces of the text of some lines are these lines. -/
theorem join_ofLines (value : String → String) (ls : List (List Piece)) :
    String.join ((ofLines ls).map (fill value)) = Library.ofLines (lines value ls) := by
  rw [ofLines, join_merge]
  induction ls with
  | nil => rfl
  | cons line ls ih =>
    rw [List.flatMap_cons, List.map_append, List.map_append, String.join_append, String.join_append,
      ih]
    exact (Library.ofLines_cons _ _).symm

/-- A character is in no line if it is in no text of a piece and in nothing that is filled in. -/
theorem not_mem_lines {c : Char} {ls : List (List Piece)}
    (hvalue : ∀ word, c ∉ (value word).toList)
    (htexts : ∀ line ∈ ls, ∀ piece ∈ line, c ∉ (piece.fill fun _ => "").toList) :
    ∀ line ∈ lines value ls, c ∉ line.toList := by
  intro line hl
  rw [lines, List.mem_map] at hl
  obtain ⟨pieces, hp, rfl⟩ := hl
  have hall : ∀ piece ∈ pieces, c ∉ (piece.fill value).toList := by
    intro piece hpiece
    cases piece with
    | text s => exact htexts pieces hp _ hpiece
    | name word => exact hvalue word
  clear hp
  induction pieces with
  | nil => simp
  | cons piece pieces ih =>
    rw [List.forall_mem_cons] at hall
    rw [List.map_cons, String.join_cons, String.toList_append, List.mem_append, not_or]
    exact ⟨hall.1, ih hall.2⟩

/-- Whether a line may begin with a mark, judged by its first piece. -/
def mayOpen (mark : String) : List Piece → Bool
  | [] => mark.toList.isEmpty
  | text s :: _ => mark.toList.isPrefixOf s.toList || s.toList.isPrefixOf mark.toList
  | name _ :: _ => true

theorem mayOpen_of_prefix {mark : String} {line : List Piece}
    (h : mark.toList <+: (String.join (line.map (fill value))).toList) :
    mayOpen mark line = true := by
  cases line with
  | nil => simpa [mayOpen] using h
  | cons piece line =>
    cases piece with
    | name word => rfl
    | text s =>
      rw [List.map_cons, String.join_cons, String.toList_append, fill] at h
      have hc := List.prefix_or_prefix_of_prefix h (List.prefix_append _ _)
      simpa only [mayOpen, Bool.or_eq_true, List.isPrefixOf_iff_prefix] using hc

/-- The lines that begin with a mark are among those that may. -/
theorem mem_lines_filter {mark line : String} {ls : List (List Piece)} (hl : line ∈ lines value ls)
    (h : mark.toList <+: line.toList) : line ∈ lines value (ls.filter (mayOpen mark)) := by
  rw [lines, List.mem_map] at hl
  obtain ⟨pieces, hp, rfl⟩ := hl
  exact List.mem_map_of_mem (List.mem_filter.2 ⟨hp, mayOpen_of_prefix h⟩)

end Piece

namespace Node

open Piece

variable {pieces : List Piece}

theorem read_pieces (h : ∀ word ∈ words pieces, Expr.IsName word) (nodes : List Node)
    (frames : List Frame) (cs : List Chunk) :
    (pieces.map chunk ++ cs).foldlM step ⟨nodes, frames⟩ =
      cs.foldlM step ⟨nodes ++ pieces.map node, frames⟩ := by
  induction pieces generalizing nodes with
  | nil => simp
  | cons piece pieces ih =>
    cases piece with
    | text s =>
      rw [List.map_cons, List.cons_append, chunk, read_text, ih h]
      simp only [List.map_cons, Piece.node, List.append_assoc, List.cons_append, List.nil_append]
    | name word =>
      rw [words, List.forall_mem_cons] at h
      rw [List.map_cons, List.cons_append, chunk, read_expression (Expr.ofTokens?_name _ h.1),
        ih h.2]
      simp only [List.map_cons, Piece.node, List.append_assoc, List.cons_append, List.nil_append]

theorem renderAll_pieces {scope : Scope} {value : String → String}
    (h : ∀ word ∈ words pieces, (Expr.name word).value scope = .ok (.text (value word))) :
    renderAll scope (pieces.map node) = .ok (String.join (pieces.map (fill value))) := by
  induction pieces with
  | nil => exact renderAll_nil
  | cons piece pieces ih =>
    cases piece with
    | text s =>
      rw [List.map_cons, List.map_cons, String.join_cons]
      exact renderAll_cons render_text (ih h)
    | name word =>
      rw [words, List.forall_mem_cons] at h
      rw [List.map_cons, List.map_cons, String.join_cons]
      exact renderAll_cons (render_print h.1 nofun) (ih h.2)

end Node

end Groundwork.Template
