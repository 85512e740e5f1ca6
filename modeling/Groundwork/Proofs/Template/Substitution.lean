import Groundwork.Proofs.Template.Project
import Groundwork.Proofs.Text.Replace

/-!
# Filling in by replacing

A name that is filled in has a tag in the template. Where the texts around the tags hold no opening
brace, the lines that pieces make are those of the template with every occurrence of the tag
replaced (`Piece.replace_lines`), and what the tag does not occur in stays as it is.
-/

namespace Groundwork

namespace Template.Piece

open Text

variable {word new : String} {pieces : List Piece} {ls : List (List Piece)}

/-- How a name is written where it is to be filled in. -/
def tag (word : String) : String := "\x7b\x7b " ++ word ++ " \x7d\x7d"

/-- A piece is the name `word`, or it is a text without an opening brace. -/
def IsOf (word : String) : Piece → Prop
  | text s => '\x7b' ∉ s.toList
  | name other => other = word

instance (word : String) : DecidablePred (IsOf word)
  | text s => inferInstanceAs (Decidable ('\x7b' ∉ s.toList))
  | name other => inferInstanceAs (Decidable (other = word))

theorem toList_tag (word : String) :
    ∃ rest, (tag word).toList = '\x7b' :: rest := by
  rw [tag, String.toList_append, String.toList_append]
  exact ⟨_, rfl⟩

theorem replace_tag_of_not_mem {s : String} (h : '\x7b' ∉ s.toList) :
    replace (tag word) new s = s := by
  obtain ⟨rest, htag⟩ := toList_tag word
  refine replace_of_not_infix fun hi => h ?_
  rw [htag] at hi
  exact hi.subset List.mem_cons_self

/-- Replacing the tag of the only name among pieces fills it in. -/
theorem replaceAll_join (h : ∀ piece ∈ pieces, piece.IsOf word) (new : String)
    (rest : List Char) :
    replaceAll (tag word).toList new.toList
        ((String.join (pieces.map (fill tag))).toList ++ rest) =
      (String.join (pieces.map (fill fun _ => new))).toList ++
        replaceAll (tag word).toList new.toList rest := by
  obtain ⟨more, htag⟩ := toList_tag word
  induction pieces with
  | nil => rfl
  | cons piece pieces ih =>
    obtain ⟨hpiece, hpieces⟩ := List.forall_mem_cons.1 h
    simp only [List.map_cons, String.join_cons, String.toList_append, List.append_assoc]
    rw [← ih hpieces]
    cases piece with
    | text s =>
      rw [htag]
      exact replaceAll_append hpiece _
    | name other =>
      obtain rfl : other = word := hpiece
      rw [fill, htag]
      exact replaceAll_pattern_append _

theorem join_flatMap (value : String → String) (ls : List (List Piece)) :
    String.join ((ls.flatMap fun line => line ++ [text "\n"]).map (fill value)) =
      Library.ofLines (lines value ls) :=
  (join_merge value _).symm.trans (join_ofLines value ls)

/-- Lines with one name are filled in by replacing its tag. -/
theorem replace_lines (h : ∀ line ∈ ls, ∀ piece ∈ line, piece.IsOf word) (new : String) :
    replace (tag word) new (Library.ofLines (lines tag ls)) =
      Library.ofLines (lines (fun _ => new) ls) := by
  have hfeed : '\x7b' ∉ "\n".toList := by decide
  have hall : ∀ piece ∈ ls.flatMap fun line => line ++ [text "\n"], piece.IsOf word := by
    intro piece hp
    obtain ⟨line, hl, hp⟩ := List.mem_flatMap.1 hp
    rcases List.mem_append.1 hp with hp | hp
    · exact h line hl piece hp
    · obtain rfl := List.mem_singleton.1 hp
      exact hfeed
  have hjoin := replaceAll_join hall new []
  rw [List.append_nil, replaceAll, List.append_nil, join_flatMap, join_flatMap] at hjoin
  rw [replace, hjoin, String.ofList_toList]

/-- Only what the name stands for matters to lines with one name. -/
theorem lines_eq (h : ∀ line ∈ ls, ∀ piece ∈ line, piece.IsOf word) (value : String → String) :
    lines value ls = lines (fun _ => value word) ls := by
  refine List.map_congr_left fun line hl => ?_
  congr 1
  refine List.map_congr_left fun piece hp => ?_
  cases piece with
  | text s => rfl
  | name other =>
    obtain rfl : other = word := h line hl _ hp
    rfl

/-- Filled in without an opening brace, lines with one name have none. -/
theorem brace_not_mem_lines (h : ∀ line ∈ ls, ∀ piece ∈ line, piece.IsOf word)
    (hnew : '\x7b' ∉ new.toList) :
    '\x7b' ∉ (Library.ofLines (lines (fun _ => new) ls)).toList := by
  have htexts : ∀ line ∈ ls, ∀ piece ∈ line, '\x7b' ∉ (piece.fill fun _ => "").toList := by
    intro line hl piece hp
    have hpiece := h line hl piece hp
    cases piece with
    | text s => exact hpiece
    | name other => exact List.not_mem_nil
  intro hm
  obtain hfeed | ⟨line, hl, hm⟩ := Library.mem_ofLines hm
  · exact absurd hfeed (by decide)
  · exact not_mem_lines (fun _ => hnew) htexts line hl hm

end Template.Piece

/-! ## The templates of a new project -/

namespace Template.Library

/-- The templates in which a name is filled in are lines of pieces. -/
theorem eq_lines_tagged {source : List String} {pieces : List (List Piece)}
    (h : (source, pieces) ∈ tagged) : source = Piece.lines Piece.tag pieces := by
  have hall : ∀ entry ∈ tagged, entry.1 = Piece.lines Piece.tag entry.2 := by decide +kernel
  exact hall _ h

/-- There is one name in each of them, and it is no part of another one. -/
theorem isOf_tagged {source : List String} {pieces : List (List Piece)}
    (h : (source, pieces) ∈ tagged) :
    (∀ line ∈ pieces, ∀ piece ∈ line, piece.IsOf "project_name") ∨
      (∀ line ∈ pieces, ∀ piece ∈ line, piece.IsOf "project_name_snake") ∧
        ¬(Piece.tag "project_name").toList <:+: (ofLines source).toList := by
  have hall : ∀ entry ∈ tagged,
      (∀ line ∈ entry.2, ∀ piece ∈ line, piece.IsOf "project_name") ∨
        (∀ line ∈ entry.2, ∀ piece ∈ line, piece.IsOf "project_name_snake") ∧
          ¬(Piece.tag "project_name").toList <:+:
            entry.1.flatMap fun line => line.toList ++ ['\n'] := by decide +kernel
  rw [ofLines, String.toList_ofList]
  exact hall _ h

end Template.Library

end Groundwork
