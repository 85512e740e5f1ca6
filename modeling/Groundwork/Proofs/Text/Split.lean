import Groundwork.Text.Split

/-!
# Laws of cutting

Cutting at a separator commutes with putting two texts together around one (`pieces_append_cons`),
and a text without separators is one piece. So parts that are put together with a mark between them
are cut apart again (`split_intercalate`). The same holds of lines, where the last one may lack its
line feed (`lines_append_cons`).
-/

namespace Groundwork.Text

variable {sep : Char}

/-! ## Pieces -/

theorem pieces_append_cons (sep : Char) (cs ds : List Char) :
    pieces sep (cs ++ sep :: ds) = pieces sep cs ++ pieces sep ds := by
  induction cs with
  | nil => simp [pieces]
  | cons c cs ih =>
    rw [List.cons_append, pieces, pieces, ih]
    split
    · rfl
    · rcases hp : pieces sep cs with _ | ⟨p, ps⟩
      · exact absurd hp (pieces_ne_nil sep cs)
      · rfl

theorem pieces_of_not_mem {cs : List Char} (h : sep ∉ cs) : pieces sep cs = [cs] := by
  induction cs with
  | nil => rfl
  | cons c cs ih =>
    obtain ⟨hc, hcs⟩ := not_or.1 (mt List.mem_cons.2 h)
    rw [pieces, if_neg (Ne.symm hc), ih hcs]

theorem mem_of_mem_pieces {cs p : List Char} (h : p ∈ pieces sep cs) {c : Char} (hc : c ∈ p) :
    c ∈ cs := by
  induction cs generalizing p with
  | nil =>
    obtain rfl : p = [] := by simpa [pieces] using h
    simp at hc
  | cons d cs ih =>
    rw [pieces] at h
    split at h
    · rcases List.mem_cons.1 h with rfl | h
      · simp at hc
      · exact List.mem_cons_of_mem _ (ih h hc)
    · split at h
      · next hp => exact absurd hp (pieces_ne_nil sep cs)
      · next q qs hq =>
        rcases List.mem_cons.1 h with rfl | h
        · rcases List.mem_cons.1 hc with rfl | hc
          · exact List.mem_cons_self
          · exact List.mem_cons_of_mem _ (ih (hq ▸ List.mem_cons_self) hc)
        · exact List.mem_cons_of_mem _ (ih (hq ▸ List.mem_cons_of_mem _ h) hc)

theorem joinPieces_append (sep : Char) {ps qs : List (List Char)} (hp : ps ≠ []) (hq : qs ≠ []) :
    joinPieces sep (ps ++ qs) = joinPieces sep ps ++ sep :: joinPieces sep qs := by
  induction ps with
  | nil => exact absurd rfl hp
  | cons p ps ih =>
    cases ps with
    | nil =>
      cases qs with
      | nil => exact absurd rfl hq
      | cons q qs => rfl
    | cons p' ps =>
      rw [List.cons_append, List.cons_append, joinPieces, ← List.cons_append,
        ih (List.cons_ne_nil _ _), joinPieces, List.append_assoc, List.cons_append]

theorem mem_joinPieces {ps : List (List Char)} {c : Char} (h : c ∈ joinPieces sep ps) :
    c = sep ∨ ∃ p ∈ ps, c ∈ p := by
  fun_induction joinPieces sep ps with
  | case1 => cases h
  | case2 p => exact .inr ⟨p, List.mem_singleton_self p, h⟩
  | case3 p q ps ih =>
    rw [List.mem_append, List.mem_cons] at h
    obtain h | rfl | h := h
    · exact .inr ⟨p, List.mem_cons_self, h⟩
    · exact .inl rfl
    · exact (ih h).imp_right fun ⟨r, hr, hc⟩ => ⟨r, List.mem_cons_of_mem _ hr, hc⟩

/-- What is put together from pieces has these pieces. -/
theorem pieces_joinPieces {ps : List (List Char)} (hne : ps ≠ []) (h : ∀ p ∈ ps, sep ∉ p) :
    pieces sep (joinPieces sep ps) = ps := by
  induction ps with
  | nil => exact absurd rfl hne
  | cons p ps ih =>
    rw [List.forall_mem_cons] at h
    cases ps with
    | nil => exact pieces_of_not_mem h.1
    | cons q qs =>
      rw [joinPieces, pieces_append_cons, pieces_of_not_mem h.1, ih (List.cons_ne_nil _ _) h.2]
      rfl

/-- A text can be taken apart between two of its pieces. -/
theorem exists_append_of_pieces {cs : List Char} {ps qs : List (List Char)}
    (h : pieces sep cs = ps ++ qs) (hp : ps ≠ []) (hq : qs ≠ []) :
    ∃ ds es, cs = ds ++ sep :: es ∧ pieces sep ds = ps ∧ pieces sep es = qs := by
  have hmem : ∀ p ∈ ps ++ qs, sep ∉ p := fun p hm => not_mem_of_mem_pieces (h ▸ hm)
  rw [List.forall_mem_append] at hmem
  refine ⟨joinPieces sep ps, joinPieces sep qs, ?_, pieces_joinPieces hp hmem.1,
    pieces_joinPieces hq hmem.2⟩
  rw [← joinPieces_append sep hp hq, ← h, join_pieces]

/-- A text without anything between its separators consists of separators. -/
theorem eq_replicate_of_pieces {cs : List Char} (h : ∀ p ∈ pieces sep cs, p = []) :
    cs = List.replicate cs.length sep := by
  induction cs with
  | nil => rfl
  | cons c cs ih =>
    rw [pieces] at h
    split at h
    · next hc =>
      rw [List.length_cons, List.replicate_succ, hc, ← ih (List.forall_mem_cons.1 h).2]
    · split at h <;> exact absurd (h _ List.mem_cons_self) (List.cons_ne_nil _ _)

theorem length_pieces (sep : Char) (cs : List Char) :
    (pieces sep cs).length = cs.count sep + 1 := by
  induction cs with
  | nil => rfl
  | cons c cs ih =>
    rw [pieces, List.count_cons]
    split
    · next hc => simp [hc, ih]
    · next hc =>
      rcases hp : pieces sep cs with _ | ⟨p, ps⟩
      · exact absurd hp (pieces_ne_nil sep cs)
      · rw [hp] at ih
        simpa [hc] using ih

/-! ## Parts of texts -/

section Parts

variable {s mark : String}

theorem split_ne_nil (sep : Char) (s : String) : split sep s ≠ [] := by
  rw [split, ne_eq, List.map_eq_nil_iff]
  exact pieces_ne_nil sep s.toList

theorem length_split (sep : Char) (s : String) :
    (split sep s).length = s.toList.count sep + 1 := by
  rw [split, List.length_map, length_pieces]

theorem split_of_not_mem (h : sep ∉ s.toList) : split sep s = [s] := by
  rw [split, pieces_of_not_mem h, List.map_singleton, String.ofList_toList]

theorem not_mem_of_mem_split {part : String} (h : part ∈ split sep s) : sep ∉ part.toList := by
  obtain ⟨p, hp, rfl⟩ := List.mem_map.1 h
  rw [String.toList_ofList]
  exact not_mem_of_mem_pieces hp

theorem split_append (h : mark.toList = [sep]) (a b : String) :
    split sep (a ++ mark ++ b) = split sep a ++ split sep b := by
  have hlist : (a ++ mark ++ b).toList = a.toList ++ sep :: b.toList := by simp [h]
  rw [split, hlist, pieces_append_cons, List.map_append, ← split, ← split]

theorem toList_intercalate (h : mark.toList = [sep]) (parts : List String) :
    (String.intercalate mark parts).toList = joinPieces sep (parts.map String.toList) := by
  induction parts with
  | nil => rfl
  | cons part parts ih =>
    cases parts with
    | nil => simp [joinPieces]
    | cons next parts =>
      rw [String.intercalate_cons_cons, String.toList_append, String.toList_append, ih, h]
      simp [joinPieces]

/-- Parts that are put together with a mark between them are cut apart again at the marks. -/
theorem split_intercalate (h : mark.toList = [sep]) {parts : List String} (hne : parts ≠ [])
    (hparts : ∀ part ∈ parts, sep ∉ part.toList) :
    split sep (String.intercalate mark parts) = parts := by
  have hpieces : ∀ p ∈ parts.map String.toList, sep ∉ p := by
    rintro p hp
    obtain ⟨part, hpart, rfl⟩ := List.mem_map.1 hp
    exact hparts part hpart
  rw [split, toList_intercalate h, pieces_joinPieces (by simpa using hne) hpieces, List.map_map]
  simp

end Parts

/-! ## The first separator -/

theorem cutFirst_append_cons {cs : List Char} (h : sep ∉ cs) (ds : List Char) :
    cutFirst sep (cs ++ sep :: ds) = (cs, some ds) := by
  induction cs with
  | nil => simp [cutFirst]
  | cons c cs ih =>
    obtain ⟨hc, hcs⟩ := not_or.1 (mt List.mem_cons.2 h)
    rw [List.cons_append, cutFirst, if_neg (Ne.symm hc), ih hcs]

theorem cutFirst_of_not_mem {cs : List Char} (h : sep ∉ cs) :
    cutFirst sep cs = (cs, none) := by
  induction cs with
  | nil => rfl
  | cons c cs ih =>
    obtain ⟨hc, hcs⟩ := not_or.1 (mt List.mem_cons.2 h)
    rw [cutFirst, if_neg (Ne.symm hc), ih hcs]

/-! ## Lines -/

theorem lines_append_cons (cs ds : List Char) :
    lines (cs ++ '\n' :: ds) = pieces '\n' cs ++ lines ds := by
  rcases List.eq_nil_or_concat (pieces '\n' ds) with h | ⟨ps, p, h⟩
  · exact absurd h (pieces_ne_nil '\n' ds)
  · rw [lines, pieces_append_cons, lines, h, List.concat_eq_append, ← List.append_assoc]
    simp only [List.getLast?_concat, List.dropLast_concat]
    split <;> simp

end Groundwork.Text
