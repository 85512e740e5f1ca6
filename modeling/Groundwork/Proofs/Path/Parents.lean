import Groundwork.Proofs.Path.LastName

/-!
# The paths above a path

A path above another one is its text up to the end of some segment, so its steps are the first steps
of that path (`steps_of_mem_ancestors`). What comes after them is not points alone: at least the
last name of the path is cut off (`steps_of_mem_parents`).
-/

namespace Groundwork.Path

open Text

/-- A path begins with its lead. -/
theorem lead_isPrefix (cs : List Char) : lead cs <+: cs := by
  unfold lead
  split
  · exact ⟨_, rfl⟩
  · exact ⟨[], rfl⟩
  · exact ⟨_, rfl⟩
  · exact ⟨cs, rfl⟩

theorem lead_cases (cs : List Char) : lead cs = [] ∨ lead cs = ['/'] ∨ lead cs = ['.'] := by
  unfold lead
  split
  · exact .inr (.inl rfl)
  · exact .inr (.inr rfl)
  · exact .inr (.inr rfl)
  · exact .inl rfl

theorem text_eq_segments (cs : List Char) :
    cs = lead cs ++ joinPieces '/' (segments cs).reverse := by
  rw [segments, List.reverse_reverse, join_pieces]
  exact (List.prefix_iff_eq_append.1 (lead_isPrefix cs)).symm

/-- A path above is cut off before a segment that is not idle, or it is the directory that a path
with a point in front starts from. -/
theorem mem_above {start : List Char} {segs : List (List Char)} {q : Path}
    (h : q ∈ above start segs) :
    q = ⟨""⟩ ∨ ∃ after s before, segs = after ++ s :: before ∧ isIdle s = false ∧
      q = ofSegments start before := by
  induction segs with
  | nil =>
    rw [above] at h
    split at h
    · exact .inl (List.mem_singleton.1 h)
    · cases h
  | cons s segs ih =>
    rw [above] at h
    have hrest (h : q ∈ above start segs) : q = ⟨""⟩ ∨ ∃ after s' before,
        s :: segs = after ++ s' :: before ∧ isIdle s' = false ∧ q = ofSegments start before := by
      obtain hq | ⟨after, s', before, rfl, hs, hq⟩ := ih h
      · exact .inl hq
      · exact .inr ⟨s :: after, s', before, rfl, hs, hq⟩
    split at h
    · exact hrest h
    · next hs =>
      rcases List.mem_cons.1 h with hq | h
      · exact .inr ⟨[], s, segs, rfl, Bool.eq_false_iff.2 hs, hq⟩
      · exact hrest h

/-- A point in front is a piece of its own. -/
theorem pieces_of_lead_point {cs : List Char} (h : lead cs = ['.']) :
    ∃ rest, (segments cs).reverse = [] :: rest ∧ pieces '/' cs = ['.'] :: rest := by
  rw [segments, List.reverse_reverse, h]
  unfold lead at h
  split at h
  · cases h
  · exact ⟨[], rfl, rfl⟩
  · exact ⟨_, rfl, by simp [pieces]⟩
  · cases h

variable {p q : Path} {name : String}

/-- A step that is not a point, for each segment that is not idle. -/
theorem exists_step_of_mem {ps : List (List Char)} {s : List Char} (hs : isIdle s = false)
    (hmem : s ∈ ps) : ∃ step ∈ (ps.filter (· != [])).map String.ofList, step ≠ "." := by
  simp only [isIdle, Bool.or_eq_false_iff, beq_eq_false_iff_ne] at hs
  refine ⟨String.ofList s, List.mem_map_of_mem (List.mem_filter.2 ⟨hmem, by simpa using hs.1⟩), ?_⟩
  intro he
  have hlist := congrArg String.toList he
  rw [String.toList_ofList] at hlist
  exact hs.2 hlist

theorem exists_step_of_segment {s : List Char} (hs : isIdle s = false)
    (hmem : s ∈ segments p.text.toList) : ∃ step ∈ p.steps, step ≠ "." := by
  rw [segments, List.mem_reverse] at hmem
  refine exists_step_of_mem hs ?_
  obtain hp | hp | ⟨rest, hd, hp⟩ := pieces_lead p.text.toList
  · rwa [hp]
  · rw [hp]
    exact List.mem_cons_of_mem _ hmem
  · -- the lead is a point, and what comes after it is empty at first
    rw [hd] at hmem
    rw [hp]
    refine List.mem_cons_of_mem _ ((List.mem_cons.1 hmem).resolve_left ?_)
    rintro rfl
    simp [isIdle] at hs

theorem exists_step_of_fileName? (h : p.fileName? = some name) : ∃ step ∈ p.steps, step ≠ "." := by
  obtain ⟨before, idle, hpieces, -, hname, -⟩ := pieces_of_fileName? h
  rw [steps, hpieces]
  exact exists_step_of_mem hname (by simp)

section CutOff

variable {after before : List (List Char)} {s : List Char}

/-- Where nothing but the lead is left, it has no steps, or the point in front is its only one. -/
theorem steps_ofSegments_of_idle (hsegs : segments p.text.toList = after ++ s :: before)
    (hs : isIdle s = false) (hstep : ∃ step ∈ p.steps, step ≠ ".")
    (hidle : before.dropWhile isIdle = []) :
    ∃ extra, p.steps = (ofSegments (lead p.text.toList) before).steps ++ extra ∧
      ∃ step ∈ extra, step ≠ "." := by
  have hq : (ofSegments (lead p.text.toList) before).text.toList = lead p.text.toList := by
    rw [ofSegments, hidle, String.toList_ofList]
    exact List.append_nil _
  by_cases hpoint : lead p.text.toList = ['.']
  · obtain ⟨rest, hrest, hpieces⟩ := pieces_of_lead_point hpoint
    refine ⟨(rest.filter (· != [])).map String.ofList, ?_, exists_step_of_mem hs ?_⟩
    · rw [steps, steps, hq, hpoint, hpieces]
      rfl
    · have hmem : s ∈ [] :: rest := by
        rw [← hrest, hsegs]
        simp
      refine (List.mem_cons.1 hmem).resolve_left ?_
      rintro rfl
      simp [isIdle] at hs
  · have hnone : (ofSegments (lead p.text.toList) before).steps = [] := by
      rw [steps, hq]
      obtain hlead | hlead | hlead := lead_cases p.text.toList
      · rw [hlead]
        rfl
      · rw [hlead]
        rfl
      · exact absurd hlead hpoint
    rw [hnone]
    exact ⟨p.steps, rfl, hstep⟩

/-- Where segments are left, a path goes on after them with a slash and what is cut off. -/
theorem text_eq_ofSegments_append (hsegs : segments p.text.toList = after ++ s :: before)
    (hkept : before.dropWhile isIdle ≠ []) :
    ∃ more, s ∈ more ∧ pieces '/' (joinPieces '/' more) = more ∧ p.text.toList =
      (ofSegments (lead p.text.toList) before).text.toList ++ '/' :: joinPieces '/' more := by
  obtain ⟨more, hall, hmem⟩ : ∃ more, (segments p.text.toList).reverse =
      (before.dropWhile isIdle).reverse ++ more ∧ s ∈ more := by
    refine ⟨(before.takeWhile isIdle).reverse ++ s :: after.reverse, ?_, by simp⟩
    have hbefore := congrArg List.reverse (@List.takeWhile_append_dropWhile _ isIdle before)
    rw [List.reverse_append] at hbefore
    rw [hsegs, List.reverse_append, List.reverse_cons, ← hbefore]
    simp
  refine ⟨more, hmem, pieces_joinPieces (List.ne_nil_of_mem hmem) fun piece hpiece => ?_, ?_⟩
  · have hpiece' : piece ∈ (segments p.text.toList).reverse := by
      rw [hall]
      exact List.mem_append_right _ hpiece
    rw [segments, List.reverse_reverse] at hpiece'
    exact not_mem_of_mem_pieces hpiece'
  · refine (text_eq_segments p.text.toList).trans ?_
    rw [ofSegments, String.toList_ofList, hall,
      joinPieces_append '/' (by simpa using hkept) (List.ne_nil_of_mem hmem), List.append_assoc]

/-- The steps of the path that is left when segments are cut off. -/
theorem steps_ofSegments (hsegs : segments p.text.toList = after ++ s :: before)
    (hs : isIdle s = false) (hstep : ∃ step ∈ p.steps, step ≠ ".") :
    ∃ extra, p.steps = (ofSegments (lead p.text.toList) before).steps ++ extra ∧
      ∃ step ∈ extra, step ≠ "." := by
  by_cases hkept : before.dropWhile isIdle = []
  · exact steps_ofSegments_of_idle hsegs hs hstep hkept
  · obtain ⟨more, hmem, hmore, hp⟩ := text_eq_ofSegments_append hsegs hkept
    refine ⟨(more.filter (· != [])).map String.ofList, ?_, exists_step_of_mem hs hmem⟩
    rw [steps, steps]
    generalize (ofSegments (lead p.text.toList) before).text.toList = text at hp
    rw [hp, pieces_append_cons, hmore, List.filter_append, List.map_append]

end CutOff

/-- The steps of a path above are the first steps of the path, and the steps after them are not
points alone. -/
theorem steps_of_mem_parents (hf : p.fileName? = some name) (hq : q ∈ p.parents) :
    ∃ extra, p.steps = q.steps ++ extra ∧ ∃ step ∈ extra, step ≠ "." := by
  have hstep := exists_step_of_fileName? hf
  obtain rfl | ⟨after, s, before, hsegs, hs, rfl⟩ := mem_above hq
  · exact ⟨p.steps, rfl, hstep⟩
  · exact steps_ofSegments hsegs hs hstep

theorem steps_of_mem_ancestors (hq : q ∈ p.ancestors) : ∃ extra, p.steps = q.steps ++ extra := by
  rcases List.mem_cons.1 hq with rfl | hq
  · exact ⟨[], (List.append_nil _).symm⟩
  · obtain rfl | ⟨after, s, before, hsegs, hs, rfl⟩ := mem_above hq
    · exact ⟨p.steps, rfl⟩
    · obtain ⟨extra, hsteps, -⟩ :=
        steps_ofSegments hsegs hs (exists_step_of_segment hs (by simp [hsegs]))
      exact ⟨extra, hsteps⟩

/-- No characters are added on the way up. -/
theorem mem_of_mem_ancestors {c : Char} (hc : c ≠ '/') (hq : q ∈ p.ancestors)
    (h : c ∈ q.text.toList) : c ∈ p.text.toList := by
  rcases List.mem_cons.1 hq with rfl | hq
  · exact h
  · obtain rfl | ⟨after, s, before, hsegs, -, rfl⟩ := mem_above hq
    · cases h
    · rw [ofSegments, String.toList_ofList, List.mem_append] at h
      obtain h | h := h
      · exact (lead_isPrefix _).subset h
      · obtain rfl | ⟨piece, hpiece, h⟩ := mem_joinPieces h
        · exact absurd rfl hc
        · have hmem : piece ∈ segments p.text.toList := by
            rw [hsegs]
            exact List.mem_append_right _ (List.mem_cons_of_mem _
              ((List.dropWhile_sublist _).subset (List.mem_reverse.1 hpiece)))
          rw [segments, List.mem_reverse] at hmem
          exact List.mem_of_mem_drop (mem_of_mem_pieces hmem h)

end Groundwork.Path
