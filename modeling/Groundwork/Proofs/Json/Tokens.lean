import Groundwork.Proofs.Json.Number
import Groundwork.Proofs.Json.Reading

/-!
# The spelling of tokens

A text spells tokens one after the other, with gaps wherever they do not matter (`SpellsAll`). Words
and numbers are read as far as their characters go, so that what is read is spelled
(`spellsAll_of_ofChars?`), but what is spelled is read only if no two scalars stand side by side
(`ofChars?_of_spellsAll`); in documents they never do.
-/

namespace Groundwork.Json.Token

open Text

/-- A text spells a token. -/
inductive Spells : Token → (spelling : List Char) → Prop
  | openList : Spells openList ['[']
  | closeList : Spells closeList [']']
  | openObject : Spells openObject ['\x7b']
  | closeObject : Spells closeObject ['\x7d']
  | colon : Spells colon [':']
  | comma : Spells comma [',']
  | null : Spells (scalar .null) "null".toList
  | boolean (b : Bool) : Spells (scalar (.boolean b)) (if b then "true" else "false").toList
  /-- A number must not round to infinity. -/
  | number {x : Number} {cs : List Char} (h : x.SpelledBy cs) (hrange : x.inRange = true) :
    Spells (scalar (.number (String.ofList cs))) cs
  | text {spelling inside : List Char} (h : SpellsText spelling inside) :
    Spells (scalar (.text (String.ofList inside))) ('"' :: (spelling ++ ['"']))

/-- A text spells tokens one after the other, with gaps in front of them, between them, and at the
end. -/
inductive SpellsAll : List Token → (spelling : List Char) → Prop
  | nil : SpellsAll [] []
  | gap {c : Char} {ts : List Token} {cs : List Char} (hc : isGap c = true) (h : SpellsAll ts cs) :
    SpellsAll ts (c :: cs)
  | token {token : Token} {spelling : List Char} {ts : List Token} {cs : List Char}
    (ht : token.Spells spelling) (h : SpellsAll ts cs) : SpellsAll (token :: ts) (spelling ++ cs)

variable {c : Char} {cs : List Char} {token : Token} {ts : List Token}

/-- What is printed for a text spells it as a token. -/
theorem SpellsAll.text (s : String) (h : SpellsAll ts cs) :
    SpellsAll (.scalar (.text s) :: ts) ('"' :: (s.toList.flatMap spell ++ ['"']) ++ cs) := by
  have hspells := Spells.text (spellsText_flatMap_spell s.toList)
  rw [String.ofList_toList] at hspells
  exact .token hspells h

/-! ## What is read is spelled -/

theorem spells_of_word? {value : Json} (h : word? cs = some value) :
    (scalar value).Spells cs := by
  unfold word? at h
  split at h
  · next hcs =>
    cases h
    rw [hcs]
    exact .boolean true
  · split at h
    · next hcs =>
      cases h
      rw [hcs]
      exact .boolean false
    · obtain ⟨rfl, hvalue⟩ := Option.ite_none_right_eq_some.1 h
      cases hvalue
      exact .null

theorem spells_of_number? {value : Json} (h : number? cs = some value) :
    (scalar value).Spells cs := by
  rw [number?] at h
  obtain ⟨hrange, hvalue⟩ := Option.ite_none_right_eq_some.1 h
  cases hvalue
  obtain ⟨x, hx, hrange⟩ := (Option.any_eq_true _ _).1 hrange
  exact .number (Number.ofChars?_iff.1 hx) hrange

theorem spells_of_next? {r : Remainder cs} (h : next? c cs = some (token, r)) :
    ∃ spelling, token.Spells (c :: spelling) ∧ cs = spelling ++ r.val := by
  unfold next? at h
  split at h
  case h_7 =>
    obtain ⟨⟨inside, s⟩, hquoted, h⟩ := Option.map_eq_some_iff.1 h
    cases h
    obtain ⟨spelling, htext, hcs⟩ := quoted_sound hquoted
    exact ⟨spelling ++ ['"'], .text htext, hcs.trans (List.append_cons ..)⟩
  case h_8 =>
    split at h
    · obtain ⟨value, hvalue, h⟩ := Option.map_eq_some_iff.1 h
      cases h
      exact ⟨_, spells_of_number? hvalue, (Remainder.append_span isNumeric cs).symm⟩
    · obtain ⟨value, hvalue, h⟩ := Option.map_eq_some_iff.1 h
      cases h
      exact ⟨_, spells_of_word? hvalue, (Remainder.append_span isAsciiLetter cs).symm⟩
  all_goals cases h
  · exact ⟨[], .openList, rfl⟩
  · exact ⟨[], .closeList, rfl⟩
  · exact ⟨[], .openObject, rfl⟩
  · exact ⟨[], .closeObject, rfl⟩
  · exact ⟨[], .colon, rfl⟩
  · exact ⟨[], .comma, rfl⟩

/-- The tokens that are read from a text are spelled by it. -/
theorem spellsAll_of_ofChars? (h : ofChars? cs = some ts) : SpellsAll ts cs := by
  induction cs using ofChars?.induct generalizing ts with
  | case1 =>
    rw [ofChars?] at h
    cases h
    exact .nil
  | case2 c cs hc ih =>
    rw [ofChars?_gap hc] at h
    exact .gap hc (ih h)
  | case3 c cs hc hnone =>
    rw [ofChars?, if_neg hc, hnone] at h
    cases h
  | case4 c cs hc token rest hnext ih =>
    rw [ofChars?_next (Bool.eq_false_iff.2 hc) hnext] at h
    obtain ⟨ts', hts, rfl⟩ := Option.map_eq_some_iff.1 h
    obtain ⟨spelling, hspells, hcs⟩ := spells_of_next? hnext
    rw [hcs]
    exact .token hspells (ih hts)

/-! ## What is spelled is read -/

/-- Whether a token is a scalar. -/
def isScalar : Token → Bool
  | scalar _ => true
  | _ => false

/-- No two scalars stand side by side. -/
def Apart (ts : List Token) : Prop := ts.IsChain fun t u => ¬(t.isScalar = true ∧ u.isScalar = true)

/-- A character that a scalar does not go on with. -/
def stops (c : Char) : Bool := !isNumeric c && !isAsciiLetter c

theorem stops_of_gap (h : isGap c = true) : stops c = true := by
  simp only [isGap, Bool.or_eq_true, decide_eq_true_eq] at h
  obtain ((rfl | rfl) | rfl) | rfl := h <;> decide

/-- What begins with no scalar stops a scalar in front of it. -/
theorem SpellsAll.stops (h : SpellsAll ts cs) (hts : ∀ t ∈ ts.head?, t.isScalar = false) :
    ∀ c ∈ cs.head?, stops c = true := by
  cases h with
  | nil => nofun
  | gap hc _ =>
    rintro _ ⟨⟩
    exact stops_of_gap hc
  | token ht _ =>
    have hscalar := hts _ rfl
    cases ht with
    | null | boolean | number | text => cases hscalar
    | _ =>
      rintro _ ⟨⟩
      decide

theorem span_of_stops {p : Char → Bool} (hp : ∀ c, stops c = true → p c = false)
    {rest : List Char} (hcs : cs.all p = true) (hrest : ∀ c ∈ rest.head?, stops c = true) :
    ∃ r, Remainder.span p (cs ++ rest) = (cs, r) ∧ r.val = rest :=
  span_append hcs fun c hc => hp c (hrest c hc)

theorem not_numeric_of_stops (h : stops c = true) : isNumeric c = false := by
  rw [stops, Bool.and_eq_true, Bool.not_eq_true'] at h
  exact h.1

theorem not_letter_of_stops (h : stops c = true) : isAsciiLetter c = false := by
  rw [stops, Bool.and_eq_true, Bool.not_eq_true', Bool.not_eq_true'] at h
  exact h.2

/-- A word is read up to what stops it. -/
theorem next?_of_word {letters rest : List Char} {value : Json}
    (hc : ∀ cs, next? c cs = (word? (c :: (Remainder.span isAsciiLetter cs).1)).map fun value =>
      (scalar value, (Remainder.span isAsciiLetter cs).2))
    (hletters : letters.all isAsciiLetter = true) (hword : word? (c :: letters) = some value)
    (hrest : ∀ d ∈ rest.head?, stops d = true) :
    ∃ r, next? c (letters ++ rest) = some (scalar value, r) ∧ r.val = rest := by
  obtain ⟨r, hr, hval⟩ := span_of_stops (fun _ => not_letter_of_stops) hletters hrest
  exact ⟨r, by rw [hc, hr, hword, Option.map_some], hval⟩

/-- A number is read up to what stops it. -/
theorem next?_of_number {more rest : List Char} {x : Number}
    (hc : (isAsciiDigit c || c = '-') = true) (hmore : more.all isNumeric = true)
    (hx : x.SpelledBy (c :: more)) (hrange : x.inRange = true)
    (hrest : ∀ d ∈ rest.head?, stops d = true) :
    ∃ r, next? c (more ++ rest) = some (scalar (.number (String.ofList (c :: more))), r) ∧
      r.val = rest := by
  obtain ⟨r, hr, hval⟩ := span_of_stops (fun _ => not_numeric_of_stops) hmore hrest
  have hnumber : number? (c :: more) = some (.number (String.ofList (c :: more))) := by
    rw [number?, Number.ofChars?_iff.2 hx, Option.any_some, if_pos hrange]
  refine ⟨r, ?_, hval⟩
  rw [next?.eq_8, if_pos hc, hr]
  · simp only [hnumber, Option.map_some]
  all_goals
    rintro rfl
    exact absurd hc (by decide)

theorem not_gap_of_digit (hc : (isAsciiDigit c || c = '-') = true) : isGap c = false := by
  rw [Bool.eq_false_iff]
  intro hgap
  simp only [isGap, Bool.or_eq_true, decide_eq_true_eq] at hgap
  obtain ((rfl | rfl) | rfl) | rfl := hgap <;> exact absurd hc (by decide)

/-- A token is read from its spelling, if what follows a scalar stops it. -/
theorem next?_of_spells {spelling rest : List Char} (h : token.Spells spelling)
    (hrest : token.isScalar = true → ∀ c ∈ rest.head?, stops c = true) :
    ∃ c cs, spelling ++ rest = c :: cs ∧ isGap c = false ∧
      ∃ r, next? c cs = some (token, r) ∧ r.val = rest := by
  cases h with
  | null =>
    exact ⟨'n', "ull".toList ++ rest, rfl, rfl,
      next?_of_word (fun _ => rfl) (by decide) rfl (hrest rfl)⟩
  | boolean b =>
    cases b
    · exact ⟨'f', "alse".toList ++ rest, rfl, rfl,
        next?_of_word (fun _ => rfl) (by decide) rfl (hrest rfl)⟩
    · exact ⟨'t', "rue".toList ++ rest, rfl, rfl,
        next?_of_word (fun _ => rfl) (by decide) rfl (hrest rfl)⟩
  | number hx hrange =>
    obtain ⟨c, more, rfl, hc, hmore⟩ := hx.exists_cons
    exact ⟨c, more ++ rest, rfl, not_gap_of_digit hc,
      next?_of_number hc hmore hx hrange (hrest rfl)⟩
  | @text spelling inside htext =>
    obtain ⟨r, hr, hval⟩ := quoted_complete htext rest
    refine ⟨'"', spelling ++ '"' :: rest, by simp, rfl, r, ?_, hval⟩
    simp [next?, hr]
  | _ => exact ⟨_, rest, rfl, rfl, Remainder.all rest, rfl, rfl⟩

/-- The tokens that a text spells are read from it, if no two scalars stand side by side. -/
theorem ofChars?_of_spellsAll (h : SpellsAll ts cs) (hapart : Apart ts) :
    ofChars? cs = some ts := by
  induction h with
  | nil => rw [ofChars?]
  | gap hc _ ih => rw [ofChars?_gap hc, ih hapart]
  | token ht h ih =>
    obtain ⟨hnext, hapart⟩ := List.isChain_cons.1 hapart
    have hrest := fun hscalar => h.stops fun t ht =>
      Bool.eq_false_iff.2 fun hs => hnext t ht ⟨hscalar, hs⟩
    obtain ⟨c, cs', he, hgap, r, hread, hval⟩ := next?_of_spells ht hrest
    rw [he, ofChars?_next hgap hread, hval, ih hapart, Option.map_some]

/-! ## Tokens and blanks -/

theorem Spells.exists_not_blank {spelling : List Char} (h : token.Spells spelling) :
    ∃ c ∈ spelling, isBlank c = false := by
  cases h with
  | null => exact ⟨'n', by decide, by decide⟩
  | boolean b => exact ⟨'e', by cases b <;> decide, by decide⟩
  | number hx _ =>
    obtain ⟨c, more, rfl, hc, -⟩ := hx.exists_cons
    refine ⟨c, List.mem_cons_self, ?_⟩
    rw [Bool.or_eq_true, decide_eq_true_eq] at hc
    obtain hdigit | rfl := hc
    · exact not_blank_of_alphanumeric (alphanumeric_of_asciiDigit hdigit)
    · decide
  | _ => exact ⟨_, List.mem_cons_self, by decide⟩

theorem SpellsAll.exists_not_blank (h : SpellsAll (token :: ts) cs) :
    ∃ c ∈ cs, isBlank c = false := by
  generalize htokens : token :: ts = tokens at h
  induction h with
  | nil => cases htokens
  | gap _ _ ih =>
    obtain ⟨c, hc, hblank⟩ := ih htokens
    exact ⟨c, List.mem_cons_of_mem _ hc, hblank⟩
  | token ht _ _ =>
    obtain ⟨c, hc, hblank⟩ := ht.exists_not_blank
    exact ⟨c, List.mem_append_left _ hc, hblank⟩

end Groundwork.Json.Token
