import Groundwork.Json.Token

/-!
# The spelling of texts in documents

A text between quotation marks is spelled character by character, and each character can be spelled
in several ways (`SpellsCharacter`). Reading goes up to the first quotation mark that is not part of
the spelling of a character, and finds the text that is spelled (`quoted_sound`, `quoted_complete`).
-/

namespace Groundwork.Json.Token

/-- A text spells a character: as itself, unless it is a control character, a quotation mark or a
backslash; by a sign after a backslash; by the four digits of its code point; or by those of two
surrogates. -/
inductive SpellsCharacter : (spelling : List Char) → Char → Prop
  | itself {c : Char} (hquote : c ≠ '"') (hslash : c ≠ '\\') (hcontrol : ¬c < ' ') :
    SpellsCharacter [c] c
  | sign {e c : Char} (h : escaped? e = some c) : SpellsCharacter ['\\', e] c
  | digits {a b c d : Char} {n : Nat} (h : unit? a b c d = some n)
    (hn : ¬(0xD800 ≤ n ∧ n ≤ 0xDFFF)) :
    SpellsCharacter ['\\', 'u', a, b, c, d] (Char.ofNat n)
  | surrogates {a b c d a' b' c' d' : Char} {high low : Nat} (h : unit? a b c d = some high)
    (hhigh : 0xD800 ≤ high ∧ high ≤ 0xDBFF) (h' : unit? a' b' c' d' = some low)
    (hlow : 0xDC00 ≤ low ∧ low ≤ 0xDFFF) :
    SpellsCharacter ['\\', 'u', a, b, c, d, '\\', 'u', a', b', c', d']
      (Char.ofNat (0x10000 + (high - 0xD800) * 0x400 + (low - 0xDC00)))

/-- A text spells another one between quotation marks, character by character. -/
inductive SpellsText : (spelling : List Char) → List Char → Prop
  | nil : SpellsText [] []
  | cons {spelling rest inside : List Char} {c : Char} (h : SpellsCharacter spelling c)
    (hrest : SpellsText rest inside) : SpellsText (spelling ++ rest) (c :: inside)

variable {cs inside : List Char} {c e : Char}

/-! ## What is read is spelled -/

theorem low?_sound {low : Nat} {r : Remainder cs} (h : low? cs = some (low, r)) :
    ∃ a b c d, cs = '\\' :: 'u' :: a :: b :: c :: d :: r.val ∧ unit? a b c d = some low ∧
      0xDC00 ≤ low ∧ low ≤ 0xDFFF := by
  unfold low? at h
  split at h
  · next a b c d rest =>
    obtain ⟨n, hn, h⟩ := Option.bind_eq_some_iff.1 h
    obtain ⟨hlow, h⟩ := Option.ite_none_right_eq_some.1 h
    obtain ⟨rfl, rfl⟩ := Prod.mk.inj (Option.some.inj h)
    exact ⟨a, b, c, d, rfl, hn, hlow⟩
  · cases h

theorem character?_sound {r : Remainder cs} (h : character? cs = some (c, r)) :
    ∃ spelling, SpellsCharacter ('\\' :: 'u' :: spelling) c ∧ cs = spelling ++ r.val := by
  unfold character? at h
  split at h
  · next a b c' d rest =>
    obtain ⟨high, hunit, h⟩ := Option.bind_eq_some_iff.1 h
    obtain ⟨hnot, h⟩ := Option.ite_none_left_eq_some.1 h
    split at h
    · next hhigh =>
      obtain ⟨⟨low, s⟩, hlow, h⟩ := Option.bind_eq_some_iff.1 h
      obtain ⟨rfl, rfl⟩ := Prod.mk.inj (Option.some.inj h)
      obtain ⟨a', b', c'', d', hrest, hunit', hbounds⟩ := low?_sound hlow
      exact ⟨_, .surrogates hunit hhigh hunit' hbounds, congrArg ([a, b, c', d] ++ ·) hrest⟩
    · next hhigh =>
      obtain ⟨rfl, rfl⟩ := Prod.mk.inj (Option.some.inj h)
      exact ⟨[a, b, c', d], .digits hunit (by omega), rfl⟩
  · cases h

theorem quoted_sound {r : Remainder cs} (h : quoted cs = some (inside, r)) :
    ∃ spelling, SpellsText spelling inside ∧ cs = spelling ++ '"' :: r.val := by
  induction cs using quoted.induct generalizing inside with
  | case1 => simp [quoted] at h
  | case2 cs =>
    rw [quoted] at h
    obtain ⟨rfl, rfl⟩ := Prod.mk.inj (Option.some.inj h)
    exact ⟨[], .nil, rfl⟩
  | case3 cs ih =>
    rw [quoted] at h
    obtain ⟨⟨c, s⟩, hc, h⟩ := Option.bind_eq_some_iff.1 h
    obtain ⟨⟨inside', s'⟩, hinside, h⟩ := Option.bind_eq_some_iff.1 h
    obtain ⟨rfl, rfl⟩ := Prod.mk.inj (Option.some.inj h)
    obtain ⟨digits, hspells, hcs⟩ := character?_sound hc
    obtain ⟨spelling, htext, hrest⟩ := ih s hinside
    refine ⟨_, .cons hspells htext, ?_⟩
    calc '\\' :: 'u' :: cs
        = '\\' :: 'u' :: digits ++ s.val := congrArg ('\\' :: 'u' :: ·) hcs
      _ = '\\' :: 'u' :: digits ++ (spelling ++ '"' :: s'.val) :=
        congrArg ('\\' :: 'u' :: digits ++ ·) hrest
      _ = '\\' :: 'u' :: digits ++ spelling ++ '"' :: s'.val := (List.append_assoc ..).symm
  | case4 e cs hu ih =>
    rw [quoted.eq_4 _ _ hu] at h
    obtain ⟨c, hc, h⟩ := Option.bind_eq_some_iff.1 h
    obtain ⟨⟨inside', s⟩, hinside, h⟩ := Option.bind_eq_some_iff.1 h
    obtain ⟨rfl, rfl⟩ := Prod.mk.inj (Option.some.inj h)
    obtain ⟨spelling, htext, hrest⟩ := ih hinside
    exact ⟨_, .cons (.sign hc) htext, congrArg (['\\', e] ++ ·) hrest⟩
  | case5 c cs hquote hu he hbad =>
    rw [quoted.eq_5 _ _ hquote hu he, if_pos (by simpa using hbad)] at h
    cases h
  | case6 c cs hquote hu he hgood ih =>
    rw [quoted.eq_5 _ _ hquote hu he, if_neg (by simpa using hgood)] at h
    obtain ⟨⟨inside', s⟩, hinside, h⟩ := Option.bind_eq_some_iff.1 h
    obtain ⟨rfl, rfl⟩ := Prod.mk.inj (Option.some.inj h)
    obtain ⟨spelling, htext, hrest⟩ := ih hinside
    have hplain : ¬(c = '\\' ∨ c < ' ') := by simpa using hgood
    exact ⟨_, .cons (.itself hquote (not_or.1 hplain).1 (not_or.1 hplain).2) htext,
      congrArg ([c] ++ ·) hrest⟩

/-! ## What is spelled is read -/

theorem character?_digits {a b c d : Char} {n : Nat} (h : unit? a b c d = some n)
    (hn : ¬(0xD800 ≤ n ∧ n ≤ 0xDFFF)) (rest : List Char) :
    ∃ r, character? (a :: b :: c :: d :: rest) = some (Char.ofNat n, r) ∧ r.val = rest := by
  refine ⟨(Remainder.all rest).past.past.past.past, ?_, rfl⟩
  simp only [character?, h, Option.bind_eq_bind, Option.bind_some, Option.pure_def]
  rw [if_neg (by omega), if_neg (by omega)]

theorem character?_surrogates {a b c d a' b' c' d' : Char} {high low : Nat}
    (h : unit? a b c d = some high) (hhigh : 0xD800 ≤ high ∧ high ≤ 0xDBFF)
    (h' : unit? a' b' c' d' = some low) (hlow : 0xDC00 ≤ low ∧ low ≤ 0xDFFF) (rest : List Char) :
    ∃ r, character? (a :: b :: c :: d :: '\\' :: 'u' :: a' :: b' :: c' :: d' :: rest) =
      some (Char.ofNat (0x10000 + (high - 0xD800) * 0x400 + (low - 0xDC00)), r) ∧ r.val = rest := by
  have hlow? : low? ('\\' :: 'u' :: a' :: b' :: c' :: d' :: rest) =
      some (low, (Remainder.all rest).past.past.past.past.past.past) := by
    simp only [low?, h', Option.bind_eq_bind, Option.bind_some, Option.pure_def, if_pos hlow]
  refine ⟨(Remainder.all rest).past.past.past.past.past.past.past.past.past.past, ?_, rfl⟩
  simp only [character?, h, Option.bind_eq_bind, Option.bind_some, Option.pure_def, hlow?]
  rw [if_neg (by omega), if_pos hhigh]

theorem quoted_unicode {r : Remainder cs} {s : Remainder r.val} (hc : character? cs = some (c, r))
    (h : quoted r.val = some (inside, s)) :
    quoted ('\\' :: 'u' :: cs) = some (c :: inside, (r.within s).past.past) := by
  simp [quoted, hc, h]

theorem quoted_sign {r : Remainder cs} (he : escaped? e = some c)
    (h : quoted cs = some (inside, r)) :
    quoted ('\\' :: e :: cs) = some (c :: inside, r.past.past) := by
  have hu : e ≠ 'u' := by
    rintro rfl
    cases he
  rw [quoted.eq_4 _ _ hu, he]
  simp [h]

theorem quoted_itself {r : Remainder cs} (hquote : c ≠ '"') (hslash : c ≠ '\\') (hc : ¬c < ' ')
    (h : quoted cs = some (inside, r)) : quoted (c :: cs) = some (c :: inside, r.past) := by
  rw [quoted.eq_5 _ _ hquote (fun _ hs _ => hslash hs) (fun _ _ hs _ => hslash hs)]
  simp [hslash, hc, h]

/-- A character is read from any of its spellings. -/
theorem quoted_spelling {spelling : List Char} {r : Remainder cs} (hc : SpellsCharacter spelling c)
    (h : quoted cs = some (inside, r)) :
    ∃ s, quoted (spelling ++ cs) = some (c :: inside, s) ∧ s.val = r.val := by
  have hunicode {digits : List Char}
      (hd : ∃ s, character? (digits ++ cs) = some (c, s) ∧ s.val = cs) :
      ∃ s, quoted ('\\' :: 'u' :: digits ++ cs) = some (c :: inside, s) ∧ s.val = r.val := by
    obtain ⟨⟨rest, hlength⟩, hs, hval⟩ := hd
    obtain rfl : rest = cs := hval
    exact ⟨_, quoted_unicode hs h, rfl⟩
  cases hc with
  | itself hquote hslash hcontrol => exact ⟨_, quoted_itself hquote hslash hcontrol h, rfl⟩
  | sign he => exact ⟨_, quoted_sign he h, rfl⟩
  | digits hu hn => exact hunicode (character?_digits hu hn cs)
  | surrogates hu hhigh hu' hlow => exact hunicode (character?_surrogates hu hhigh hu' hlow cs)

theorem quoted_complete {spelling : List Char} (h : SpellsText spelling inside)
    (rest : List Char) :
    ∃ r, quoted (spelling ++ '"' :: rest) = some (inside, r) ∧ r.val = rest := by
  induction h with
  | nil => exact ⟨(Remainder.all rest).past, quoted.eq_2 rest, rfl⟩
  | cons hc _ ih =>
    obtain ⟨r, hr, hrest⟩ := ih
    obtain ⟨s, hs, hval⟩ := quoted_spelling hc hr
    rw [List.append_assoc]
    exact ⟨s, hs, hval.trans hrest⟩

end Groundwork.Json.Token
