import Groundwork.Path
import Groundwork.Proofs.Text.Split
import Groundwork.Text.Utf8

/-!
# Paths below a root

A path that is joined to a root consists of the root, a slash if the root needs one
(`Path.anchored`) and itself. So the steps of the joined path are those of the root and then its own
(`steps_join`), and the path above a name in a directory is the directory as seen from the root
(`parent?_join_pair`).
-/

namespace Groundwork.Path

open Text

/-! ## Joined paths -/

/-- `base` with a slash at its end, unless it has one or is empty. -/
def anchored (base : List Char) : List Char :=
  if base.getLast?.all (· == '/') then base else base ++ ['/']

@[simp] theorem anchored_nil : anchored [] = [] := rfl

/-- What is joined to ends in a slash, which is put in unless it is there, or is empty. -/
theorem anchored_cases (base : List Char) :
    base = [] ∨ ∃ above, anchored base = above ++ ['/'] ∧
      (base = above ∨ base = above ++ ['/']) := by
  rcases List.eq_nil_or_concat base with rfl | ⟨above, c, rfl⟩
  · exact .inl rfl
  · rw [List.concat_eq_append, anchored, List.getLast?_concat, Option.all_some]
    refine .inr ?_
    split
    · next hc =>
      obtain rfl := beq_iff_eq.1 hc
      exact ⟨above, rfl, .inr rfl⟩
    · exact ⟨_, rfl, .inl rfl⟩

theorem mem_anchored {base : List Char} {c : Char} (h : c ∈ base) : c ∈ anchored base := by
  unfold anchored
  split
  · exact h
  · exact List.mem_append_left _ h

theorem mem_of_mem_anchored {base : List Char} {c : Char} (hc : c ≠ '/') (h : c ∈ anchored base) :
    c ∈ base := by
  unfold anchored at h
  split at h
  · exact h
  · simpa [hc] using h

theorem toList_join (base : Path) {rest : Path} (h : isAbsoluteChars rest.text.toList = false) :
    (base.join rest).text.toList = anchored base.text.toList ++ rest.text.toList := by
  simp only [join, String.toList_ofList, joinChars, h, Bool.false_eq_true, if_false, anchored]
  split <;> simp

/-! ## Steps -/

theorem stepPieces_anchored (base rest : List Char) :
    (pieces '/' (anchored base ++ rest)).filter (· != []) =
      (pieces '/' base).filter (· != []) ++ (pieces '/' rest).filter (· != []) := by
  obtain rfl | ⟨above, ha, hbase⟩ := anchored_cases base
  · simp [anchored, pieces]
  · rw [ha, List.append_assoc, List.singleton_append, pieces_append_cons, List.filter_append]
    obtain rfl | rfl := hbase
    · rfl
    · rw [pieces_append_cons]
      simp [pieces]

/-- The steps of a joined path are those of its parts. -/
theorem steps_join (base : Path) {rest : Path} (h : isAbsoluteChars rest.text.toList = false) :
    (base.join rest).steps = base.steps ++ rest.steps := by
  simp only [steps, toList_join base h, stepPieces_anchored, List.map_append]

theorem endsWithSlash_join (base : Path) {rest : Path}
    (h : isAbsoluteChars rest.text.toList = false) (hne : rest.text.toList ≠ []) :
    (base.join rest).endsWithSlash = rest.endsWithSlash := by
  rw [endsWithSlash, toList_join base h, endsWithSlash]
  rcases List.eq_nil_or_concat rest.text.toList with hn | ⟨cs, c, hc⟩
  · exact absurd hn hne
  · rw [hc, List.concat_eq_append, ← List.append_assoc, List.getLast?_concat, List.getLast?_concat]

/-! ## Names -/

/-- A name that an entry of a directory can have. -/
structure IsName (name : String) : Prop where
  /-- It is not empty. -/
  ne_empty : name ≠ ""
  /-- It holds no slash. -/
  noSlash : '/' ∉ name.toList
  /-- It holds no null character. -/
  noNull : '\x00' ∉ name.toList
  /-- It is not the point, which stands for the directory itself. -/
  ne_point : name ≠ "."
  /-- It is not the two points that stand for the directory above. -/
  ne_points : name ≠ ".."

instance (name : String) : Decidable (IsName name) :=
  decidable_of_iff
    (name ≠ "" ∧ '/' ∉ name.toList ∧ '\x00' ∉ name.toList ∧ name ≠ "." ∧ name ≠ "..")
    ⟨fun ⟨h₁, h₂, h₃, h₄, h₅⟩ => ⟨h₁, h₂, h₃, h₄, h₅⟩,
      fun h => ⟨h.ne_empty, h.noSlash, h.noNull, h.ne_point, h.ne_points⟩⟩

/-- The path to `name` in the directory `directory`. -/
def pair (directory name : String) : Path := ⟨directory ++ "/" ++ name⟩

section

variable {directory name : String}

theorem IsName.toList_ne_nil (h : IsName name) : name.toList ≠ [] := by
  simpa using h.ne_empty

theorem IsName.toList_ne_points (h : IsName name) : name.toList ≠ ['.', '.'] :=
  fun he => h.ne_points (String.toList_inj.1 he)

theorem not_absolute_of_forall {cs : List Char} (h : ∀ rest, cs ≠ '/' :: rest) :
    isAbsoluteChars cs = false := by
  cases cs with
  | nil => rfl
  | cons c cs =>
    have hc : c ≠ '/' := by
      rintro rfl
      exact h cs rfl
    simpa [isAbsoluteChars] using hc

theorem not_absolute_of_noSlash {cs : List Char} (h : '/' ∉ cs) : isAbsoluteChars cs = false :=
  not_absolute_of_forall fun _ he => h (he ▸ List.mem_cons_self)

theorem IsName.not_absolute (h : IsName name) : isAbsoluteChars name.toList = false :=
  not_absolute_of_noSlash h.noSlash

theorem isIdle_iff {s : List Char} : isIdle s = true ↔ s = [] ∨ s = ['.'] := by
  simp [isIdle]

/-- The steps of idle pieces are points. -/
theorem eq_point_of_idle {ps : List (List Char)} (h : ∀ s ∈ ps, isIdle s = true) :
    ∀ step ∈ (ps.filter (· != [])).map String.ofList, step = "." := by
  intro step hstep
  obtain ⟨s, hs, rfl⟩ := List.mem_map.1 hstep
  obtain ⟨hs, hne⟩ := List.mem_filter.1 hs
  rw [(isIdle_iff.1 (h s hs)).resolve_left (by simpa using hne)]

theorem IsName.not_idle (h : IsName name) : isIdle name.toList = false := by
  have hp : name.toList ≠ ['.'] := fun he => h.ne_point (String.toList_inj.1 he)
  simp [isIdle, h.ne_empty, hp]

theorem IsName.endsWithSlash (h : IsName name) : (⟨name⟩ : Path).endsWithSlash = false := by
  have hl : name.toList.getLast? ≠ some '/' := fun he => h.noSlash (List.mem_of_getLast? he)
  simpa [Path.endsWithSlash] using hl

theorem IsName.steps (h : IsName name) : (⟨name⟩ : Path).steps = [name] := by
  simp [Path.steps, pieces_of_not_mem h.noSlash, h.ne_empty]

theorem toList_pair : (pair directory name).text.toList =
    directory.toList ++ '/' :: name.toList := by
  simp [pair]

theorem text_join_ne_empty (root : Path) {name : String} (h : IsName name) :
    (root.join ⟨name⟩).text ≠ "" := by
  intro he
  have ht : (root.join ⟨name⟩).text.toList = anchored root.text.toList ++ name.toList :=
    toList_join root h.not_absolute
  simp [he, h.ne_empty] at ht

/-- The number of bytes of a joined path. -/
theorem byteLength_join (base : Path) {rest : Path}
    (h : isAbsoluteChars rest.text.toList = false) :
    byteLength (base.join rest).text =
      (encodeChars (anchored base.text.toList)).length + byteLength rest.text := by
  simp only [byteLength, encode, encodeChars, toList_join base h, List.flatMap_append,
    List.length_append]

theorem pair_not_absolute (h : IsName directory) :
    isAbsoluteChars (pair directory name).text.toList = false := by
  have hd := h.not_absolute
  rw [toList_pair]
  rcases hn : directory.toList with _ | ⟨c, cs⟩
  · exact absurd hn h.toList_ne_nil
  · simpa [isAbsoluteChars, hn] using hd

theorem byteLength_join_directory_le (base : Path) (hd : IsName directory) (name : String) :
    byteLength (base.join ⟨directory⟩).text ≤
      byteLength (base.join (pair directory name)).text := by
  rw [byteLength_join base hd.not_absolute, byteLength_join base (pair_not_absolute hd)]
  simp only [byteLength, encode, encodeChars, toList_pair, List.flatMap_append, List.length_append]
  omega

theorem null_not_mem_pair (hd : IsName directory) (hn : IsName name) :
    '\x00' ∉ (pair directory name).text.toList := by
  rw [toList_pair, List.mem_append, List.mem_cons]
  rintro (hm | hm | hm)
  · exact hd.noNull hm
  · simp at hm
  · exact hn.noNull hm

theorem endsWithSlash_pair (h : IsName name) : (pair directory name).endsWithSlash = false := by
  have hne : '/' :: name.toList ≠ [] := by simp
  have hl := h.endsWithSlash
  rcases hn : name.toList with _ | ⟨c, cs⟩
  · exact absurd hn h.toList_ne_nil
  · simpa [Path.endsWithSlash, toList_pair, hn] using hl

theorem steps_pair (hd : IsName directory) (hn : IsName name) :
    (pair directory name).steps = [directory, name] := by
  rw [Path.steps, toList_pair, pieces_append_cons, pieces_of_not_mem hd.noSlash,
    pieces_of_not_mem hn.noSlash]
  simp [hd.ne_empty, hn.ne_empty]

end

/-! ## The path above -/

theorem getLast?_pieces_append_cons (cs ds : List Char) :
    (pieces '/' (cs ++ '/' :: ds)).getLast? = (pieces '/' ds).getLast? := by
  rcases List.eq_nil_or_concat (pieces '/' ds) with h | ⟨ps, p, h⟩
  · exact absurd h (pieces_ne_nil '/' ds)
  · rw [pieces_append_cons, h, List.concat_eq_append, ← List.append_assoc, List.getLast?_concat,
      List.getLast?_concat]

/-- A path begins with its lead, and what comes after the lead ends as the path does. -/
theorem lead_append {above : List Char} (name : List Char) (hne : above ≠ [])
    (hp : above ≠ ['.']) :
    ∃ rest, above = lead (above ++ '/' :: name) ++ rest ∧
      (pieces '/' rest).getLast? = (pieces '/' above).getLast? := by
  rcases above with _ | ⟨c, cs⟩
  · exact absurd rfl hne
  · by_cases hc : c = '/'
    · subst hc
      exact ⟨cs, rfl, (getLast?_pieces_append_cons [] cs).symm⟩
    · by_cases hd : c = '.'
      · subst hd
        rcases cs with _ | ⟨d, ds⟩
        · exact absurd rfl hp
        · by_cases hs : d = '/'
          · subst hs
            exact ⟨'/' :: ds, rfl, (getLast?_pieces_append_cons [] ds).trans
              (getLast?_pieces_append_cons ['.'] ds).symm⟩
          · exact ⟨'.' :: d :: ds, by simp [lead, hs], rfl⟩
      · exact ⟨c :: cs, by simp [lead, hc, hd], rfl⟩

theorem segments_append {above : List Char} (name : List Char) (hne : above ≠ [])
    (hp : above ≠ ['.']) (hs : '/' ∉ name) :
    ∃ rest, segments (above ++ '/' :: name) = name :: rest := by
  obtain ⟨rest, ha, -⟩ := lead_append name hne hp
  have hdrop : (above ++ '/' :: name).drop (lead (above ++ '/' :: name)).length =
      rest ++ '/' :: name := by
    generalize lead (above ++ '/' :: name) = front at ha
    rw [ha, List.append_assoc, List.drop_left]
  refine ⟨(pieces '/' rest).reverse, ?_⟩
  rw [segments, hdrop, pieces_append_cons, pieces_of_not_mem hs, List.reverse_append]
  rfl

/-- The name of the file at the end of a path to an entry of a directory. -/
theorem fileName?_pair {directory name : String} (hd : IsName directory) (hn : IsName name) :
    (pair directory name).fileName? = some name := by
  have hpoint : directory.toList ≠ ['.'] := fun he => hd.ne_point (String.toList_inj.1 he)
  obtain ⟨rest, hr⟩ := segments_append name.toList hd.toList_ne_nil hpoint hn.noSlash
  rw [fileName?, toList_pair, hr, List.dropWhile_cons_of_neg (by simp [hn.not_idle])]
  simp [hn.toList_ne_points]

theorem pieces_replicate_append (n : Nat) (cs : List Char) :
    pieces '/' (List.replicate n '/' ++ cs) = List.replicate n [] ++ pieces '/' cs := by
  induction n with
  | zero => rfl
  | succ n ih =>
    rw [List.replicate_succ, List.replicate_succ, List.cons_append, List.cons_append, pieces,
      if_pos rfl, ih]

/-- The path above a name that is not idle: what ends with another such name, before the slashes in
between. -/
theorem parent?_of_toList {p : Path} {above name directory : List Char} {n : Nat}
    (h : p.text.toList = above ++ '/' :: (List.replicate n '/' ++ name)) (hs : '/' ∉ name)
    (hn : isIdle name = false) (hl : (pieces '/' above).getLast? = some directory)
    (hd : isIdle directory = false) :
    p.parent? = some ⟨String.ofList above⟩ := by
  have hne : above ≠ [] := by
    rintro rfl
    obtain rfl : [] = directory := by simpa [pieces] using hl
    simp [isIdle] at hd
  have hp : above ≠ ['.'] := by
    rintro rfl
    obtain rfl : ['.'] = directory := by simpa [pieces] using hl
    simp [isIdle] at hd
  obtain ⟨rest, hr, hrl⟩ := lead_append (List.replicate n '/' ++ name) hne hp
  rw [← h] at hr
  obtain ⟨ps, hps⟩ : ∃ ps, pieces '/' rest = ps ++ [directory] :=
    List.getLast?_eq_some_iff.1 (hrl.trans hl)
  have hdrop : p.text.toList.drop (lead p.text.toList).length =
      rest ++ '/' :: (List.replicate n '/' ++ name) := by
    generalize lead p.text.toList = front at hr
    rw [h, hr, List.append_assoc, List.drop_left]
  have hseg : segments p.text.toList =
      name :: (List.replicate n [] ++ (ps ++ [directory]).reverse) := by
    rw [segments, hdrop, pieces_append_cons, pieces_replicate_append, pieces_of_not_mem hs, hps]
    simp
  have hidle : (List.replicate n [] ++ (ps ++ [directory]).reverse).dropWhile isIdle =
      (ps ++ [directory]).reverse := by
    rw [List.dropWhile_append_of_pos (by simp [isIdle]), List.reverse_append]
    exact List.dropWhile_cons_of_neg (by simp [hd])
  rw [parent?, parents, hseg, Path.above, hn]
  simp only [Bool.false_eq_true, if_false, List.head?_cons, ofSegments, hidle, List.reverse_reverse]
  rw [← hps, join_pieces, ← hr]

/-- The path above a name in a directory, seen from a root, is the directory seen from there. -/
theorem parent?_join_pair (root : Path) {directory name : String} (hd : IsName directory)
    (hn : IsName name) :
    (root.join (pair directory name)).parent? = some (root.join ⟨directory⟩) := by
  have ht : (root.join (pair directory name)).text.toList =
      (anchored root.text.toList ++ directory.toList) ++
        '/' :: (List.replicate 0 '/' ++ name.toList) := by
    rw [toList_join root (pair_not_absolute hd), toList_pair, List.append_assoc]
    rfl
  have hl : (pieces '/' (anchored root.text.toList ++ directory.toList)).getLast? =
      some directory.toList := by
    obtain hroot | ⟨above, ha, -⟩ := anchored_cases root.text.toList
    · rw [hroot, anchored_nil, List.nil_append, pieces_of_not_mem hd.noSlash]
      rfl
    · rw [ha, List.append_assoc, List.singleton_append, getLast?_pieces_append_cons,
        pieces_of_not_mem hd.noSlash]
      rfl
  have hj : (root.join ⟨directory⟩).text.toList = anchored root.text.toList ++ directory.toList :=
    toList_join root hd.not_absolute
  rw [parent?_of_toList ht hn.noSlash hn.not_idle hl hd.not_idle, ← hj, String.ofList_toList]

end Groundwork.Path
