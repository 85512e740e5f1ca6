import Groundwork.Proofs.Text.Character
import Groundwork.Text.LetterCase

/-!
# Characters of case forms

The upper-case and lower-case forms of a letter consist of the letter itself or of characters of the
mapping tables, and those are no blanks and lie after the ASCII signs and digits: the upper-case
ones from `A` on (`mem_upperForm`), the lower-case ones from `a` on (`mem_lowerForm`). So changing
the case of a name brings no slash, point or blank into it. Neither form of a letter brings in
anything but clear characters (`clear_of_mem_upperForm`, `clear_of_mem_lowerForm`), nor the
replacement character, which stands for damage where bytes are read as text.
-/

namespace Groundwork.Text

/-! ## The tables -/

/-- Whether the code points from `low` to `high` are characters that lie at `least` or after it,
with no blank among them. -/
def areSigns (least low high : Nat) : Bool :=
  decide (least ≤ low) &&
    (decide (high < 0xD800) || decide (0xDFFF < low) && decide (high < 0x110000)) &&
    blankPoints.all fun n => decide (n < low) || decide (high < n)

/-- Whether the characters of a mapping lie at `least` or after it and are no blanks. -/
def formsAreSigns (least : Nat) (sequences : List (Nat × List Nat)) (runs : List CaseRun) : Bool :=
  (sequences.all fun s => s.2.all fun n => areSigns least n n) &&
    runs.all fun r => areSigns least r.partner (r.partner + (r.last - r.first))

theorem mem_of_lookup {α β : Type} [BEq α] [LawfulBEq α] {l : List (α × β)} {k : α} {b : β}
    (h : l.lookup k = some b) : (k, b) ∈ l := by
  obtain ⟨l₁, l₂, rfl, -⟩ := List.lookup_eq_some_iff.1 h
  simp

theorem toNat_ofNat_between {low high n : Nat}
    (h : high < 0xD800 ∨ 0xDFFF < low ∧ high < 0x110000) (hl : low ≤ n) (hh : n ≤ high) :
    (Char.ofNat n).toNat = n := by
  refine toNat_ofNat ?_
  rcases h with h | h
  · exact .inl (by omega)
  · exact .inr ⟨by omega, by omega⟩

theorem sign_ofNat {least low high n : Nat} (h : areSigns least low high = true)
    (hl : low ≤ n) (hh : n ≤ high) :
    least ≤ (Char.ofNat n).toNat ∧ isBlank (Char.ofNat n) = false := by
  simp only [areSigns, Bool.and_eq_true, Bool.or_eq_true, List.all_eq_true,
    decide_eq_true_eq] at h
  obtain ⟨⟨hleast, hchar⟩, hblank⟩ := h
  have hn := toNat_ofNat_between hchar hl hh
  refine ⟨by omega, Bool.eq_false_iff.2 fun hb => ?_⟩
  have hm := hblank _ (mem_blankPoints hb)
  omega

/-- A character of a form is the letter itself, or it belongs to a sequence or to a run. -/
theorem mem_mapped_cases {sequences : List (Nat × List Nat)} {runs : List CaseRun} {c d : Char}
    (hd : d ∈ mapped sequences runs c) :
    d = c ∨ (∃ s ∈ sequences, ∃ n ∈ s.2, d = Char.ofNat n) ∨
      ∃ r ∈ runs, ∃ n, r.partner ≤ n ∧ n ≤ r.partner + (r.last - r.first) ∧ d = Char.ofNat n := by
  unfold mapped at hd
  split at hd
  · next form hf =>
    obtain ⟨n, hn, rfl⟩ := List.mem_map.1 hd
    exact .inr (.inl ⟨_, mem_of_lookup hf, n, hn, rfl⟩)
  · rcases hp : partner? runs c.toNat with _ | n
    · exact .inl (by simpa [hp] using hd)
    · obtain rfl : d = Char.ofNat n := by simpa [hp] using hd
      obtain ⟨r, hr, rfl⟩ := Option.map_eq_some_iff.1 hp
      have hc := List.find?_some hr
      simp only [CaseRun.covers, Bool.and_eq_true, decide_eq_true_eq] at hc
      refine .inr (.inr ⟨r, List.mem_of_find?_eq_some hr, _, ?_, ?_, rfl⟩)
      · simp [CaseRun.image]
      · simp only [CaseRun.image]
        omega

theorem mem_mapped {least : Nat} {sequences : List (Nat × List Nat)} {runs : List CaseRun}
    (h : formsAreSigns least sequences runs = true) {c d : Char}
    (hd : d ∈ mapped sequences runs c) :
    d = c ∨ least ≤ d.toNat ∧ isBlank d = false := by
  simp only [formsAreSigns, Bool.and_eq_true, List.all_eq_true] at h
  obtain rfl | ⟨s, hs, n, hn, rfl⟩ | ⟨r, hr, n, hl, hh, rfl⟩ := mem_mapped_cases hd
  · exact .inl rfl
  · exact .inr (sign_ofNat (h.1 s hs n hn) (Nat.le_refl n) (Nat.le_refl n))
  · exact .inr (sign_ofNat (h.2 r hr) hl hh)

theorem mem_upperForm {c d : Char} (h : d ∈ upperForm c) :
    d = c ∨ 65 ≤ d.toNat ∧ isBlank d = false :=
  mem_mapped (by decide +kernel) h

theorem mem_lowerForm {c d : Char} (h : d ∈ lowerForm c) :
    d = c ∨ 97 ≤ d.toNat ∧ isBlank d = false :=
  mem_mapped (by decide +kernel) h

/-! ### Clear characters -/

/-- Whether the code points from `low` to `high` are ASCII letters or characters after the
controls. -/
def areClear (low high : Nat) : Bool :=
  decide (65 ≤ low) && decide (high ≤ 90) || decide (97 ≤ low) && decide (high ≤ 122) ||
    decide (160 ≤ low) &&
      (decide (high < 0xD800) || decide (0xDFFF < low) && decide (high < 0x110000))

theorem clear_ofNat {low high n : Nat} (h : areClear low high = true) (hl : low ≤ n)
    (hh : n ≤ high) : isClear (Char.ofNat n) = true := by
  simp only [areClear, Bool.or_eq_true, Bool.and_eq_true, decide_eq_true_eq] at h
  have hchar : high < 0xD800 ∨ 0xDFFF < low ∧ high < 0x110000 := by omega
  have hn := toNat_ofNat_between hchar hl hh
  by_cases hs : isAsciiLetter (Char.ofNat n) = true
  · exact clear_of_alphanumeric (alphanumeric_of_asciiLetter hs)
  · rw [asciiLetter_iff, hn] at hs
    exact clear_of_le (by omega)

/-- Whether the characters of a mapping are ASCII letters or lie after the controls. -/
def formsAreClear (sequences : List (Nat × List Nat)) (runs : List CaseRun) : Bool :=
  (sequences.all fun s => s.2.all fun n => areClear n n) &&
    runs.all fun r => areClear r.partner (r.partner + (r.last - r.first))

theorem clear_of_mem_mapped {sequences : List (Nat × List Nat)} {runs : List CaseRun}
    (h : formsAreClear sequences runs = true) {c d : Char} (hd : d ∈ mapped sequences runs c) :
    d = c ∨ isClear d = true := by
  simp only [formsAreClear, Bool.and_eq_true, List.all_eq_true] at h
  obtain rfl | ⟨s, hs, n, hn, rfl⟩ | ⟨r, hr, n, hl, hh, rfl⟩ := mem_mapped_cases hd
  · exact .inl rfl
  · exact .inr (clear_ofNat (h.1 s hs n hn) (Nat.le_refl n) (Nat.le_refl n))
  · exact .inr (clear_ofNat (h.2 r hr) hl hh)

theorem clear_of_mem_upperForm {c d : Char} (h : d ∈ upperForm c) : d = c ∨ isClear d = true :=
  clear_of_mem_mapped (by decide +kernel) h

theorem clear_of_mem_lowerForm {c d : Char} (h : d ∈ lowerForm c) : d = c ∨ isClear d = true :=
  clear_of_mem_mapped (by decide +kernel) h

/-! ### The replacement character -/

theorem ofNat_ne {n : Nat} {c : Char} (hc : c ≠ '\x00') (hn : n ≠ c.toNat) : Char.ofNat n ≠ c := by
  rintro rfl
  by_cases hvalid : n.isValidChar
  · exact hn (toNat_ofNat hvalid).symm
  · exact hc (by rw [Char.ofNat, dif_neg hvalid]; rfl)

/-- Whether no form of a mapping has the code point `mark`. -/
def formsMiss (mark : Nat) (sequences : List (Nat × List Nat)) (runs : List CaseRun) : Bool :=
  (sequences.all fun s => s.2.all fun n => decide (n ≠ mark)) &&
    runs.all fun r => decide (mark < r.partner ∨ r.partner + (r.last - r.first) < mark)

theorem ne_of_mem_mapped {mark : Char} (hmark : mark ≠ '\x00') {sequences : List (Nat × List Nat)}
    {runs : List CaseRun} (h : formsMiss mark.toNat sequences runs = true) {c d : Char}
    (hd : d ∈ mapped sequences runs c) : d = c ∨ d ≠ mark := by
  simp only [formsMiss, Bool.and_eq_true, List.all_eq_true, decide_eq_true_eq] at h
  obtain rfl | ⟨s, hs, n, hn, rfl⟩ | ⟨r, hr, n, hl, hh, rfl⟩ := mem_mapped_cases hd
  · exact .inl rfl
  · exact .inr (ofNat_ne hmark (h.1 s hs n hn))
  · refine .inr (ofNat_ne hmark ?_)
    have := h.2 r hr
    omega

/-- A form has the replacement character only if it is that of the replacement character. -/
theorem ne_replacement_of_mem_upperForm {c d : Char} (h : d ∈ upperForm c) :
    d = c ∨ d ≠ '\uFFFD' :=
  ne_of_mem_mapped (by decide) (by decide +kernel) h

theorem ne_replacement_of_mem_lowerForm {c d : Char} (h : d ∈ lowerForm c) :
    d = c ∨ d ≠ '\uFFFD' :=
  ne_of_mem_mapped (by decide) (by decide +kernel) h

theorem lowerForm_ne_nil (c : Char) : lowerForm c ≠ [] := by
  unfold lowerForm mapped
  split
  · next form hf =>
    have h : (lowerSequences.all fun s => !s.2.isEmpty) = true := by decide
    have hs := List.all_eq_true.1 h _ (mem_of_lookup hf)
    simpa using hs
  · simp

/-! ## Lower case -/

/-- A character of a text in lower case is one of the small sigmas or belongs to the form of a
character of the text. -/
theorem mem_lowerAfter_cases {before cs : List Char} {d : Char} (h : d ∈ lowerAfter before cs) :
    (d = 'ς' ∨ d = 'σ') ∨ ∃ c ∈ cs, d ∈ lowerForm c := by
  induction cs generalizing before with
  | nil => simp [lowerAfter] at h
  | cons c cs ih =>
    rw [lowerAfter, List.mem_append] at h
    rcases h with h | h
    · split at h
      · refine .inl ?_
        split at h
        · exact .inl (List.mem_singleton.1 h)
        · exact .inr (List.mem_singleton.1 h)
      · exact .inr ⟨c, List.mem_cons_self, h⟩
    · exact (ih h).imp_right fun ⟨e, he, hd⟩ => ⟨e, List.mem_cons_of_mem c he, hd⟩

theorem mem_lowerChars {cs : List Char} {d : Char} (h : d ∈ lowerChars cs) :
    97 ≤ d.toNat ∨ d ∈ cs := by
  obtain (rfl | rfl) | ⟨c, hc, hd⟩ := mem_lowerAfter_cases h
  · exact .inl (by decide)
  · exact .inl (by decide)
  · rcases mem_lowerForm hd with rfl | hd
    · exact .inr hc
    · exact .inl hd.1

/-- The lower-case form of a text of clear characters consists of clear characters. -/
theorem clear_of_mem_lowerChars {cs : List Char} (h : ∀ c ∈ cs, isClear c = true) {d : Char}
    (hd : d ∈ lowerChars cs) : isClear d = true := by
  obtain (rfl | rfl) | ⟨c, hc, hd⟩ := mem_lowerAfter_cases hd
  · decide
  · decide
  · rcases clear_of_mem_lowerForm hd with rfl | hd
    · exact h _ hc
    · exact hd

theorem replacement_not_mem_lowerChars {cs : List Char} (h : '\uFFFD' ∉ cs) :
    '\uFFFD' ∉ lowerChars cs := by
  intro hm
  obtain (hs | hs) | ⟨c, hc, hd⟩ := mem_lowerAfter_cases hm
  · exact absurd hs (by decide)
  · exact absurd hs (by decide)
  · rcases ne_replacement_of_mem_lowerForm hd with rfl | hne
    · exact h hc
    · exact hne rfl

/-- The lower-case form of a text begins with its first character or with a letter. -/
theorem lowerChars_cons (c : Char) (cs : List Char) :
    ∃ d ds, lowerChars (c :: cs) = d :: ds ∧ (97 ≤ d.toNat ∨ d = c) := by
  rw [lowerChars, lowerAfter]
  split
  · split <;> exact ⟨_, _, rfl, .inl (by decide)⟩
  · rcases hl : lowerForm c with _ | ⟨d, ds⟩
    · exact absurd hl (lowerForm_ne_nil c)
    · have hd : d ∈ lowerForm c := by simp [hl]
      exact ⟨d, _, rfl, (mem_lowerForm hd).symm.imp_left And.left⟩

end Groundwork.Text
