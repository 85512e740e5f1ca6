import Groundwork.Proofs.Path.Parents
import Mathlib.Data.List.DropRight

/-!
# The way up

The paths above a path are the nearest one and then the paths above that one (`parents_eq`), so
going up is a matter of one path at a time. A path without the idle segments at its end
(`Path.trimmed`) has the same paths above it. It is what the way up from a segment that is joined to
the path goes through, and not the path as it was written (`parents_join`); all paths further up are
trimmed already (`trimmed_of_mem_parents`). What trimming takes away are slashes and points
(`anchored_eq_trimmed`).
-/

namespace Groundwork.Path

open Text

/-! ## Texts and segments -/

theorem lead_append_slash {cs : List Char} (h : cs ≠ []) (ds : List Char) :
    lead (cs ++ '/' :: ds) = lead cs := by
  rcases cs with _ | ⟨c, cs⟩
  · exact absurd rfl h
  · by_cases hslash : c = '/'
    · subst hslash
      rfl
    · by_cases hpoint : c = '.'
      · subst hpoint
        rcases cs with _ | ⟨d, cs⟩
        · rfl
        · by_cases hd : d = '/'
          · subst hd
            rfl
          · simp [lead, hd]
      · simp [lead, hslash, hpoint]

theorem segments_append_slash {cs : List Char} (h : cs ≠ []) (ds : List Char) :
    segments (cs ++ '/' :: ds) = (pieces '/' ds).reverse ++ segments cs := by
  rw [segments, lead_append_slash h, List.drop_append_of_le_length (lead_isPrefix cs).length_le,
    pieces_append_cons, List.reverse_append, segments]

/-- A path that is cut off after a segment that is not idle begins as it did and keeps the segments
up to there. -/
theorem lead_segments_of_kept {cs s : List Char} {after before : List (List Char)}
    (hsegs : segments cs = after ++ s :: before) (hs : isIdle s = false) :
    lead (lead cs ++ joinPieces '/' (s :: before).reverse) = lead cs ∧
      segments (lead cs ++ joinPieces '/' (s :: before).reverse) = s :: before := by
  have hnoSlash : ∀ piece ∈ (s :: before).reverse, '/' ∉ piece := by
    intro piece hpiece
    have hmem : piece ∈ segments cs :=
      hsegs ▸ List.mem_append_right _ (List.mem_reverse.1 hpiece)
    exact not_mem_of_mem_pieces (List.mem_reverse.1 hmem)
  have hpieces : pieces '/' (joinPieces '/' (s :: before).reverse) = (s :: before).reverse :=
    pieces_joinPieces (by simp) hnoSlash
  have hlead : lead (lead cs ++ joinPieces '/' (s :: before).reverse) = lead cs := by
    have htext := text_eq_segments cs
    rw [hsegs] at htext
    by_cases hafter : after = []
    · rw [hafter, List.nil_append] at htext
      rw [← htext]
    · rw [List.reverse_append, joinPieces_append '/' (by simp) (by simpa using hafter),
        ← List.append_assoc] at htext
      have hne : lead cs ++ joinPieces '/' (s :: before).reverse ≠ [] := by
        intro hnil
        rw [(List.append_eq_nil_iff.1 hnil).2] at hpieces
        -- the only piece would be empty, but the segment is not idle
        rcases before with _ | ⟨b, before⟩
        · obtain rfl : [] = s := by simpa [pieces] using hpieces
          simp [isIdle] at hs
        · have hlength := congrArg List.length hpieces
          simp [pieces] at hlength
      have hcut := congrArg lead htext
      rw [lead_append_slash hne] at hcut
      exact hcut.symm
  refine ⟨hlead, ?_⟩
  rw [segments, hlead, List.drop_left, hpieces, List.reverse_reverse]

theorem ofSegments_dropWhile (start : List Char) (segs : List (List Char)) :
    ofSegments start (segs.dropWhile isIdle) = ofSegments start segs := by
  rw [ofSegments, ofSegments, List.dropWhile_idempotent]

theorem above_dropWhile (start : List Char) (segs : List (List Char)) :
    above start (segs.dropWhile isIdle) = above start segs := by
  induction segs with
  | nil => rfl
  | cons s segs ih =>
    rw [List.dropWhile_cons]
    split
    · next hs => rw [ih, above, if_pos hs]
    · rfl

/-! ## Paths that are cut off -/

/-- The path without the idle segments at its end. -/
def trimmed (p : Path) : Path := ofSegments (lead p.text.toList) (segments p.text.toList)

variable {p q : Path} {after before : List (List Char)}

/-- What is left when segments are cut off begins as the path did and has the segments that are
left, but for idle ones at its end. -/
theorem lead_segments_ofSegments (hsegs : segments p.text.toList = after ++ before) :
    lead (ofSegments (lead p.text.toList) before).text.toList = lead p.text.toList ∧
      (segments (ofSegments (lead p.text.toList) before).text.toList).dropWhile isIdle =
        before.dropWhile isIdle := by
  rw [ofSegments, String.toList_ofList]
  rcases hkept : before.dropWhile isIdle with _ | ⟨s, kept⟩
  · -- nothing but the lead is left
    rw [List.reverse_nil, joinPieces, List.append_nil]
    obtain hlead | hlead | hlead := lead_cases p.text.toList
    all_goals
      rw [hlead]
      exact ⟨rfl, rfl⟩
  · have hs : isIdle s = false := by
      have hhead := List.head?_dropWhile_not isIdle before
      rw [hkept] at hhead
      simpa using hhead
    have hall : segments p.text.toList = (after ++ before.takeWhile isIdle) ++ s :: kept := by
      rw [hsegs, List.append_assoc, ← hkept, List.takeWhile_append_dropWhile]
    obtain ⟨hlead, hsegments⟩ := lead_segments_of_kept hall hs
    refine ⟨hlead, ?_⟩
    rw [hsegments, List.dropWhile_cons_of_neg (by simp [hs])]

theorem parents_ofSegments (hsegs : segments p.text.toList = after ++ before) :
    (ofSegments (lead p.text.toList) before).parents = above (lead p.text.toList) before := by
  obtain ⟨hlead, hsegments⟩ := lead_segments_ofSegments hsegs
  rw [parents, hlead, ← above_dropWhile, hsegments, above_dropWhile]

theorem trimmed_ofSegments (hsegs : segments p.text.toList = after ++ before) :
    (ofSegments (lead p.text.toList) before).trimmed = ofSegments (lead p.text.toList) before := by
  obtain ⟨hlead, hsegments⟩ := lead_segments_ofSegments hsegs
  rw [trimmed, hlead, ← ofSegments_dropWhile, hsegments, ofSegments_dropWhile]

/-- The paths above a path are trimmed. -/
theorem trimmed_of_mem_parents (h : q ∈ p.parents) : q.trimmed = q := by
  obtain rfl | ⟨after, s, before, hsegs, -, rfl⟩ := mem_above h
  · rfl
  · rw [List.append_cons] at hsegs
    exact trimmed_ofSegments hsegs

/-! ## One path at a time -/

theorem above_eq (hsegs : segments p.text.toList = after ++ before) :
    above (lead p.text.toList) before = [] ∨
      ∃ q, above (lead p.text.toList) before = q :: q.parents := by
  induction before generalizing after with
  | nil =>
    rw [above]
    split
    · exact .inr ⟨⟨""⟩, rfl⟩
    · exact .inl rfl
  | cons s before ih =>
    rw [List.append_cons] at hsegs
    rw [above]
    split
    · exact ih hsegs
    · exact .inr ⟨_, by rw [parents_ofSegments hsegs]⟩

/-- The paths above a path are the nearest one, if there is one, and the paths above that one. -/
theorem parents_eq (p : Path) :
    p.parents = match p.parent? with
      | none => []
      | some q => q :: q.parents := by
  have hsegs : segments p.text.toList = [] ++ segments p.text.toList := rfl
  obtain hnone | ⟨q, hq⟩ := above_eq hsegs
  · rw [parent?, parents, hnone]
    rfl
  · rw [parent?, parents, hq]
    rfl

/-! ## Joined segments -/

/-- A name has no lead and is one segment. -/
theorem lead_segments_name {cs : List Char} (hslash : '/' ∉ cs) (hidle : isIdle cs = false) :
    lead cs = [] ∧ segments cs = [cs] := by
  have hlead : lead cs = [] := by
    unfold lead
    split
    · exact absurd List.mem_cons_self hslash
    · cases hidle
    · exact absurd (List.mem_cons_of_mem _ List.mem_cons_self) hslash
    · rfl
  refine ⟨hlead, ?_⟩
  rw [segments, hlead, List.length_nil, List.drop_zero, pieces_of_not_mem hslash]
  rfl

theorem lead_segments_join (p : Path) {name : String} (hslash : '/' ∉ name.toList)
    (hidle : isIdle name.toList = false) :
    lead (p.join ⟨name⟩).text.toList = lead p.text.toList ∧
      ∃ rest, segments (p.join ⟨name⟩).text.toList = name.toList :: rest ∧
        (segments p.text.toList = rest ∨ segments p.text.toList = [] :: rest) := by
  have htext : (p.join ⟨name⟩).text.toList = anchored p.text.toList ++ name.toList :=
    toList_join p (not_absolute_of_noSlash hslash)
  rw [htext]
  obtain hp | ⟨front, hanchored, hfront⟩ := anchored_cases p.text.toList
  · rw [hp]
    obtain ⟨hlead, hsegments⟩ := lead_segments_name hslash hidle
    exact ⟨hlead, [], hsegments, .inr rfl⟩
  · rw [hanchored, List.append_assoc, List.singleton_append]
    by_cases hroot : front = []
    · subst hroot
      obtain hempty | hslashes := hfront
      · rw [hempty] at hanchored
        cases hanchored
      · rw [hslashes]
        refine ⟨rfl, [], ?_, .inr rfl⟩
        rw [List.nil_append, segments, lead, List.length_singleton, List.drop_one, List.tail_cons,
          pieces_of_not_mem hslash]
        rfl
    · rw [lead_append_slash hroot, segments_append_slash hroot, pieces_of_not_mem hslash]
      obtain hfront | hfront := hfront
      · rw [hfront]
        exact ⟨rfl, segments front, rfl, .inl rfl⟩
      · rw [hfront, lead_append_slash hroot, segments_append_slash hroot]
        exact ⟨rfl, segments front, rfl, .inr rfl⟩

/-- Above a segment that is joined to a path is the path, trimmed, and then what is above it. -/
theorem parents_join (p : Path) {name : String} (hslash : '/' ∉ name.toList)
    (hidle : isIdle name.toList = false) :
    (p.join ⟨name⟩).parents = p.trimmed :: p.parents := by
  obtain ⟨hlead, rest, hjoin, hrest⟩ := lead_segments_join p hslash hidle
  have hdrop : rest.dropWhile isIdle = (segments p.text.toList).dropWhile isIdle := by
    obtain hrest | hrest := hrest
    · rw [hrest]
    · rw [hrest, List.dropWhile_cons_of_pos rfl]
  rw [parents, hlead, hjoin, above, hidle, if_neg Bool.false_ne_true, ← ofSegments_dropWhile,
    ← above_dropWhile, hdrop, ofSegments_dropWhile, above_dropWhile]
  rfl

/-! ## What trimming takes away -/

theorem anchored_append_slash (cs ds : List Char) :
    anchored (cs ++ '/' :: ds) = cs ++ '/' :: anchored ds := by
  rcases List.eq_nil_or_concat ds with rfl | ⟨ds, d, rfl⟩
  · simp [anchored]
  · have hlast : (cs ++ '/' :: (ds ++ [d])).getLast? = some d := by
      rw [← List.cons_append, ← List.append_assoc, List.getLast?_concat]
    rw [List.concat_eq_append, anchored, anchored, hlast, List.getLast?_concat]
    split <;> simp

/-- All pieces of a text are idle. -/
def AllIdle (cs : List Char) : Prop := ∀ s ∈ pieces '/' cs, isIdle s = true

theorem allIdle_nil : AllIdle [] := by
  intro s hs
  obtain rfl : s = [] := by simpa [pieces] using hs
  rfl

theorem AllIdle.anchored {cs : List Char} (h : AllIdle cs) : AllIdle (anchored cs) := by
  unfold Path.anchored
  split
  · exact h
  · intro s hs
    rw [pieces_append_cons] at hs
    obtain hs | hs := List.mem_append.1 hs
    · exact h s hs
    · exact allIdle_nil s hs

theorem AllIdle.cons_slash {cs : List Char} (h : AllIdle cs) : AllIdle ('/' :: cs) := by
  intro s hs
  have hpieces : pieces '/' ('/' :: cs) = [] :: pieces '/' cs := by rw [pieces, if_pos rfl]
  rw [hpieces] at hs
  obtain rfl | hs := List.mem_cons.1 hs
  · rfl
  · exact h s hs

theorem AllIdle.noNull {cs : List Char} (h : AllIdle cs) : '\x00' ∉ cs := by
  intro hnull
  rw [← join_pieces '/' cs] at hnull
  obtain he | ⟨s, hs, hc⟩ := mem_joinPieces hnull
  · cases he
  · obtain rfl | rfl := isIdle_iff.1 (h s hs)
    · cases hc
    · cases List.mem_singleton.1 hc

theorem allIdle_joinPieces {ss : List (List Char)} (hne : ss ≠ [])
    (h : ∀ s ∈ ss, isIdle s = true) : AllIdle (joinPieces '/' ss) := by
  have hslash : ∀ s ∈ ss, '/' ∉ s := by
    intro s hs
    obtain rfl | rfl := isIdle_iff.1 (h s hs)
    · exact List.not_mem_nil
    · decide
  intro s hs
  rw [pieces_joinPieces hne hslash] at hs
  exact h s hs

/-- Idle pieces after a slash. -/
theorem anchored_of_idle_tail (cs : List Char) {ds : List Char} (h : AllIdle ds) :
    ∃ tail, AllIdle tail ∧ Path.anchored (cs ++ '/' :: ds) = Path.anchored cs ++ tail := by
  rw [anchored_append_slash]
  by_cases hcs : cs.getLast?.all (· == '/') = true
  · refine ⟨_, h.anchored.cons_slash, ?_⟩
    have hsame : Path.anchored cs = cs := if_pos hcs
    rw [hsame]
  · refine ⟨_, h.anchored, ?_⟩
    have hslash : Path.anchored cs = cs ++ ['/'] := if_neg hcs
    rw [hslash, List.append_assoc, List.singleton_append]

/-- What a name is joined to if the path is trimmed, and slashes and points after that. -/
theorem anchored_eq_trimmed (p : Path) :
    ∃ tail, AllIdle tail ∧
      anchored p.text.toList = anchored p.trimmed.text.toList ++ tail := by
  have htrimmed : p.trimmed.text.toList = lead p.text.toList ++
      joinPieces '/' ((segments p.text.toList).dropWhile isIdle).reverse := String.toList_ofList
  have htext := text_eq_segments p.text.toList
  have hsplit : (segments p.text.toList).takeWhile isIdle ++
      (segments p.text.toList).dropWhile isIdle = segments p.text.toList :=
    List.takeWhile_append_dropWhile
  by_cases hkept : (segments p.text.toList).dropWhile isIdle = []
  · -- nothing but the lead is left
    have hidle : AllIdle (p.text.toList.drop (lead p.text.toList).length) := fun s hs =>
      List.dropWhile_eq_nil_iff.1 hkept s (List.mem_reverse.2 hs)
    rw [hkept, List.reverse_nil, joinPieces, List.append_nil] at htrimmed
    rw [htrimmed]
    generalize p.text.toList = cs at hidle
    unfold lead at hidle ⊢
    split at hidle
    · next rest => exact ⟨_, hidle.anchored, anchored_append_slash [] rest⟩
    · exact ⟨[], hidle, rfl⟩
    · next rest =>
      refine anchored_of_idle_tail ['.'] fun s hs => hidle s ?_
      have hpieces : pieces '/' ('/' :: rest) = [] :: pieces '/' rest := by rw [pieces, if_pos rfl]
      exact hpieces ▸ List.mem_cons_of_mem _ hs
    · exact ⟨_, hidle.anchored, rfl⟩
  · by_cases hnone : (segments p.text.toList).takeWhile isIdle = []
    · rw [hnone, List.nil_append] at hsplit
      rw [hsplit, ← htext] at htrimmed
      rw [htrimmed]
      exact ⟨[], allIdle_nil, (List.append_nil _).symm⟩
    · have hidle :
          AllIdle (joinPieces '/' ((segments p.text.toList).takeWhile isIdle).reverse) :=
        allIdle_joinPieces (mt List.reverse_eq_nil_iff.1 hnone) fun s hs =>
          List.all_eq_true.1 List.all_takeWhile s (List.mem_reverse.1 hs)
      rw [← hsplit, List.reverse_append, joinPieces_append '/' (mt List.reverse_eq_nil_iff.1 hkept)
        (mt List.reverse_eq_nil_iff.1 hnone), ← List.append_assoc, ← htrimmed] at htext
      have htail := anchored_of_idle_tail p.trimmed.text.toList hidle
      rwa [← htext] at htail

/-- The steps of a path are those of the path that is trimmed, and then points. -/
theorem steps_eq_trimmed (p : Path) :
    ∃ points, (∀ s ∈ points, s = ".") ∧ p.steps = p.trimmed.steps ++ points := by
  obtain ⟨tail, hidle, hanchored⟩ := anchored_eq_trimmed p
  refine ⟨((pieces '/' tail).filter (· != [])).map String.ofList, eq_point_of_idle hidle, ?_⟩
  have hpieces := stepPieces_anchored p.text.toList []
  have htrimmed := stepPieces_anchored p.trimmed.text.toList tail
  rw [List.append_nil, hanchored, htrimmed] at hpieces
  have hnil : (pieces '/' ([] : List Char)).filter (· != []) = [] := rfl
  rw [hnil, List.append_nil] at hpieces
  rw [steps, steps, ← hpieces, List.map_append]

theorem byteLength_trimmed_join_le (p : Path) {rest : Path}
    (h : isAbsoluteChars rest.text.toList = false) :
    byteLength (p.trimmed.join rest).text ≤ byteLength (p.join rest).text := by
  obtain ⟨tail, -, hanchored⟩ := anchored_eq_trimmed p
  rw [byteLength_join _ h, byteLength_join _ h, hanchored]
  simp only [encodeChars, List.flatMap_append, List.length_append]
  omega

theorem null_mem_trimmed_iff (p : Path) :
    '\x00' ∈ p.trimmed.text.toList ↔ '\x00' ∈ p.text.toList := by
  obtain ⟨tail, hidle, hanchored⟩ := anchored_eq_trimmed p
  constructor
  · intro h
    refine mem_of_mem_anchored (by decide) ?_
    rw [hanchored]
    exact List.mem_append_left _ (mem_anchored h)
  · intro h
    have hmem := mem_anchored h
    rw [hanchored, List.mem_append] at hmem
    exact mem_of_mem_anchored (by decide) (hmem.resolve_right hidle.noNull)

end Groundwork.Path
