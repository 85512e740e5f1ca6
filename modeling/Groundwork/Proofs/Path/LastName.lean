import Groundwork.Proofs.Path

/-!
# The last name of a path

A path ends in a name if slashes at most follow the name (`Path.EndsIn`). The path that is cut off
after the name leads where the path leads, and it is the path above every name that is joined to the
path (`EndsIn.parent?_join`). A path whose last segment that is not idle is a name ends in this
name, unless a point follows somewhere (`exists_endsIn`).
-/

namespace Groundwork.Path

open Text

/-- `name` is the last name of a path: `above` is the text up to the end of the name, and slashes at
most follow it. -/
structure EndsIn (p : Path) (name : String) (above : List Char) : Prop where
  /-- It is the name of an entry of a directory. -/
  isName : IsName name
  /-- Nothing but slashes follows it. -/
  slashes : ∃ n, p.text.toList = above ++ List.replicate n '/'
  /-- Nothing or a slash comes before it. -/
  last : ∃ before, pieces '/' above = before ++ [name.toList]

variable {p : Path} {name : String} {above : List Char}

namespace EndsIn

theorem ne_nil (h : p.EndsIn name above) : above ≠ [] := by
  rintro rfl
  obtain ⟨before, hb⟩ := h.last
  cases before with
  | nil => exact h.isName.toList_ne_nil (by simpa [pieces] using hb.symm)
  | cons b before => simp [pieces] at hb

theorem getLast?_pieces (h : p.EndsIn name above) :
    (pieces '/' above).getLast? = some name.toList := by
  obtain ⟨before, hb⟩ := h.last
  rw [hb, List.getLast?_concat]

/-- The path that is cut off after the name. -/
def cut (_ : p.EndsIn name above) : Path := ⟨String.ofList above⟩

theorem toList_cut (h : p.EndsIn name above) : h.cut.text.toList = above := String.toList_ofList

theorem endsIn_cut (h : p.EndsIn name above) : h.cut.EndsIn name above :=
  ⟨h.isName, ⟨0, by simp [h.toList_cut]⟩, h.last⟩

theorem mem_of_mem_cut (h : p.EndsIn name above) {c : Char} (hc : c ∈ h.cut.text.toList) :
    c ∈ p.text.toList := by
  obtain ⟨n, hn⟩ := h.slashes
  rw [h.toList_cut] at hc
  exact hn ▸ List.mem_append_left _ hc

/-- The path that is cut off after the name has the steps of the path. -/
theorem steps_cut (h : p.EndsIn name above) : h.cut.steps = p.steps := by
  obtain ⟨n, hn⟩ := h.slashes
  have hpieces : (pieces '/' (above ++ List.replicate n '/')).filter (· != []) =
      (pieces '/' above).filter (· != []) := by
    cases n with
    | zero => simp
    | succ n =>
      have hslashes := pieces_replicate_append n []
      rw [List.append_nil] at hslashes
      rw [List.replicate_succ, pieces_append_cons, hslashes]
      simp [List.filter_append, pieces]
  rw [steps, steps, hn, hpieces, h.toList_cut]

/-- The name is the last step. -/
theorem steps_eq (h : p.EndsIn name above) : ∃ init, p.steps = init ++ [name] := by
  obtain ⟨before, hb⟩ := h.last
  have hne : (name.toList != []) = true := by simpa using h.isName.ne_empty
  refine ⟨(before.filter (· != [])).map String.ofList, ?_⟩
  rw [← h.steps_cut, steps, h.toList_cut, hb]
  simp [List.filter_append, hne]

theorem exists_front (h : p.EndsIn name above) : ∃ front, above = front ++ name.toList := by
  obtain ⟨before, hb⟩ := h.last
  by_cases hbefore : before = []
  · refine ⟨[], ?_⟩
    rw [← join_pieces '/' above, hb, hbefore]
    rfl
  · obtain ⟨ds, es, rfl, -, hes⟩ := exists_append_of_pieces hb hbefore (List.cons_ne_nil _ _)
    refine ⟨ds ++ ['/'], ?_⟩
    rw [← join_pieces '/' es, hes, List.append_assoc]
    rfl

theorem anchored_above (h : p.EndsIn name above) : anchored above = above ++ ['/'] := by
  obtain ⟨front, hfront⟩ := h.exists_front
  have hlast : above.getLast?.all (· == '/') = false := by
    rcases List.eq_nil_or_concat name.toList with hname | ⟨cs, c, hname⟩
    · exact absurd hname h.isName.toList_ne_nil
    · have hc : c ≠ '/' := by
        rintro rfl
        exact h.isName.noSlash (by simp [hname])
      rw [hfront, hname, List.concat_eq_append, ← List.append_assoc, List.getLast?_concat]
      simpa using hc
  rw [anchored, hlast]
  rfl

/-- What a name is joined to: the path up to the end of its last name, and slashes. -/
theorem anchored_eq (h : p.EndsIn name above) :
    ∃ n, anchored p.text.toList = above ++ '/' :: List.replicate n '/' := by
  obtain ⟨n, hn⟩ := h.slashes
  cases n with
  | zero =>
    rw [hn, List.replicate_zero, List.append_nil]
    exact ⟨0, h.anchored_above⟩
  | succ n =>
    refine ⟨n, ?_⟩
    have hlast : (above ++ List.replicate (n + 1) '/').getLast?.all (· == '/') = true := by
      rw [List.replicate_succ', ← List.append_assoc, List.getLast?_concat]
      rfl
    rw [hn, anchored, hlast, if_pos rfl, List.replicate_succ]

/-- The path above a name that is joined to a path is the path, cut off after its last name. -/
theorem parent?_join (h : p.EndsIn name above) {entry : String} (he : IsName entry) :
    (p.join ⟨entry⟩).parent? = some h.cut := by
  obtain ⟨n, hn⟩ := h.anchored_eq
  have htext : (p.join ⟨entry⟩).text.toList =
      above ++ '/' :: (List.replicate n '/' ++ entry.toList) := by
    rw [toList_join p he.not_absolute, hn, List.append_assoc, List.cons_append]
  exact parent?_of_toList htext he.noSlash he.not_idle h.getLast?_pieces h.isName.not_idle

theorem byteLength_cut_join_le (h : p.EndsIn name above) {rest : Path}
    (hr : isAbsoluteChars rest.text.toList = false) :
    byteLength (h.cut.join rest).text ≤ byteLength (p.join rest).text := by
  obtain ⟨n, hn⟩ := h.anchored_eq
  rw [byteLength_join _ hr, byteLength_join _ hr, h.toList_cut, h.anchored_above, hn]
  simp only [encodeChars, List.flatMap_append, List.flatMap_cons, List.length_append]
  simp

end EndsIn

/-! ## Names at the end -/

/-- What comes before the segments of a path is at most one idle piece. -/
theorem pieces_lead (cs : List Char) :
    pieces '/' cs = pieces '/' (cs.drop (lead cs).length) ∨
      pieces '/' cs = [] :: pieces '/' (cs.drop (lead cs).length) ∨
      ∃ rest, pieces '/' (cs.drop (lead cs).length) = [] :: rest ∧
        pieces '/' cs = ['.'] :: rest := by
  unfold lead
  split
  · exact .inr (.inl (by simp [pieces]))
  · exact .inr (.inr ⟨[], rfl, rfl⟩)
  · exact .inr (.inr ⟨_, rfl, by simp [pieces]⟩)
  · exact .inl rfl

/-- Behind the last segment that is not idle there are idle ones only. -/
theorem pieces_of_fileName? (h : p.fileName? = some name) :
    ∃ before idle, pieces '/' p.text.toList = before ++ name.toList :: idle ∧
      (∀ s ∈ idle, isIdle s = true) ∧ isIdle name.toList = false ∧ name.toList ≠ ['.', '.'] := by
  rw [fileName?] at h
  split at h
  · cases h
  · cases h
  · next s rest hpoints hdrop =>
    obtain rfl := Option.some.inj h
    have hname : isIdle s = false := by
      have hhead := List.head?_dropWhile_not isIdle (segments p.text.toList)
      rw [hdrop] at hhead
      simpa using hhead
    have hne : s ≠ [] := by
      rintro rfl
      simp [isIdle] at hname
    have hsegments : pieces '/' (p.text.toList.drop (lead p.text.toList).length) =
        rest.reverse ++ s :: ((segments p.text.toList).takeWhile isIdle).reverse := by
      have happend := @List.takeWhile_append_dropWhile _ isIdle (segments p.text.toList)
      rw [hdrop] at happend
      have hreverse := congrArg List.reverse happend
      rw [List.reverse_append, List.reverse_cons, segments, List.reverse_reverse,
        List.append_assoc] at hreverse
      exact hreverse.symm
    have hidle : ∀ t ∈ ((segments p.text.toList).takeWhile isIdle).reverse, isIdle t = true :=
      fun t ht => List.all_eq_true.1 List.all_takeWhile t (List.mem_reverse.1 ht)
    rw [String.toList_ofList]
    obtain hp | hp | ⟨tail, hd, hp⟩ := pieces_lead p.text.toList
    · exact ⟨rest.reverse, _, hp.trans hsegments, hidle, hname, hpoints⟩
    · exact ⟨[] :: rest.reverse, _, by rw [hp, hsegments]; rfl, hidle, hname, hpoints⟩
    · rw [hsegments] at hd
      rcases hr : rest.reverse with _ | ⟨first, before⟩
      · rw [hr] at hd
        exact absurd (List.cons.inj hd).1 hne
      · rw [hr] at hd
        obtain rfl := (List.cons.inj hd).2
        exact ⟨['.'] :: before, _, hp, hidle, hname, hpoints⟩

/-- A path whose last segment that is not idle is a name ends in it, unless a point follows. -/
theorem exists_endsIn (h : p.fileName? = some name) (hnull : '\x00' ∉ p.text.toList) :
    (∃ above, p.EndsIn name above) ∨
      ∃ init points, points ≠ [] ∧ (∀ s ∈ points, s = ".") ∧ p.steps = init ++ name :: points := by
  obtain ⟨before, idle, hpieces, hidle, hname, hpoints⟩ := pieces_of_fileName? h
  have hmem : name.toList ∈ pieces '/' p.text.toList := by simp [hpieces]
  have hidleName : name.toList ≠ [] ∧ name.toList ≠ ['.'] := by
    simpa [isIdle] using hname
  have hn : IsName name := {
    ne_empty := by
      rintro rfl
      exact hidleName.1 rfl
    noSlash := not_mem_of_mem_pieces hmem
    noNull := fun hm => hnull (mem_of_mem_pieces hmem hm)
    ne_point := by
      rintro rfl
      exact hidleName.2 rfl
    ne_points := by
      rintro rfl
      exact hpoints rfl }
  by_cases hall : ∀ s ∈ idle, s = []
  · left
    cases idle with
    | nil => exact ⟨p.text.toList, hn, ⟨0, by simp⟩, before, hpieces⟩
    | cons s idle =>
      rw [List.append_cons] at hpieces
      obtain ⟨ds, es, hcs, hds, hes⟩ :=
        exists_append_of_pieces hpieces (by simp) (List.cons_ne_nil _ _)
      have hslashes := eq_replicate_of_pieces (hes ▸ hall)
      exact ⟨ds, hn, ⟨es.length + 1, by rw [hcs, List.replicate_succ, ← hslashes]⟩, before, hds⟩
  · right
    refine ⟨(before.filter (· != [])).map String.ofList, (idle.filter (· != [])).map String.ofList,
      ?_, ?_, ?_⟩
    · simpa using hall
    · exact eq_point_of_idle hidle
    · have hne : (name.toList != []) = true := by simpa using hidleName.1
      rw [steps, hpieces]
      simp [List.filter_append, hne]

end Groundwork.Path
