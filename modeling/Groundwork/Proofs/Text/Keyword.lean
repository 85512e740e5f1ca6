import Groundwork.Proofs.Text.LetterCase

/-!
# Words in any letter case

A word of a vocabulary is recognized by its lower-case form. As the words are spelled with ASCII
letters other than `k`, this tells no more than comparing ASCII letters without regard to case
(`lower_eq_iff`): the lower-case form of a character outside of ASCII has such a character in it, or
it is the `k` of the sign for kelvin.
-/

namespace Groundwork.Text

/-- A token spells a word, with each letter in either case. -/
def Respells (word token : String) : Prop := token.toList.map asciiLower = word.toList

instance (word token : String) : Decidable (Respells word token) :=
  inferInstanceAs (Decidable (_ = _))

/-! ## Lower-case forms inside and outside of ASCII -/

theorem lowerForm_of_ascii {c : Char} (h : c.toNat < 128) : lowerForm c = [asciiLower c] := by
  have hall : ∀ n < 128, lowerForm (Char.ofNat n) = [asciiLower (Char.ofNat n)] := by
    decide +kernel
  rw [← Char.ofNat_toNat c]
  exact hall _ h

/-- A code point outside of ASCII, or that of `k`, the one lower-case letter of ASCII that has a
partner outside of it. -/
def IsForeign (n : Nat) : Prop := 128 ≤ n ∨ n = 107

instance : DecidablePred IsForeign := fun n => inferInstanceAs (Decidable (128 ≤ n ∨ n = 107))

/-- Whether the code points from `low` to `high` are characters and foreign. -/
def areForeign (low high : Nat) : Bool :=
  (decide (128 ≤ low) || low == 107 && high == 107) &&
    (decide (high < 0xD800) || decide (0xDFFF < low) && decide (high < 0x110000))

theorem foreign_ofNat {low high n : Nat} (h : areForeign low high = true) (hl : low ≤ n)
    (hh : n ≤ high) : IsForeign (Char.ofNat n).toNat := by
  simp only [areForeign, Bool.and_eq_true, Bool.or_eq_true, decide_eq_true_eq, beq_iff_eq] at h
  rw [toNat_ofNat_between h.2 hl hh, IsForeign]
  omega

/-- The lower-case form of a character outside of ASCII does not consist of other letters of ASCII
than `k`. -/
theorem exists_foreign_of_lowerForm {c : Char} (h : 128 ≤ c.toNat) :
    ∃ d ∈ lowerForm c, IsForeign d.toNat := by
  have hsequences : (lowerSequences.all fun s => s.2.any fun n => areForeign n n) = true := by
    decide +kernel
  have hruns : (lowerRuns.all fun r =>
      decide (r.last < 128) || areForeign r.partner (r.partner + (r.last - r.first))) = true := by
    decide +kernel
  unfold lowerForm mapped
  split
  · next form hf =>
    obtain ⟨n, hn, hforeign⟩ :=
      List.any_eq_true.1 (List.all_eq_true.1 hsequences _ (mem_of_lookup hf))
    exact ⟨_, List.mem_map_of_mem hn, foreign_ofNat hforeign (Nat.le_refl n) (Nat.le_refl n)⟩
  · refine ⟨_, List.mem_singleton_self _, ?_⟩
    rcases hp : partner? lowerRuns c.toNat with _ | n
    · exact .inl h
    · obtain ⟨r, hr, rfl⟩ := Option.map_eq_some_iff.1 hp
      have hc := List.find?_some hr
      simp only [CaseRun.covers, Bool.and_eq_true, decide_eq_true_eq] at hc
      have hrun := List.all_eq_true.1 hruns r (List.mem_of_find?_eq_some hr)
      rw [Bool.or_eq_true, decide_eq_true_eq] at hrun
      have hforeign := hrun.resolve_left (by omega)
      refine foreign_ofNat hforeign ?_ ?_ <;> simp only [CaseRun.image] <;> omega

/-! ## Lower-case forms of texts -/

theorem lowerAfter_of_ascii {before cs : List Char} (h : ∀ c ∈ cs, c.toNat < 128) :
    lowerAfter before cs = cs.map asciiLower := by
  induction cs generalizing before with
  | nil => rfl
  | cons c cs ih =>
    rw [List.forall_mem_cons] at h
    have hsigma : c ≠ 'Σ' := by
      rintro rfl
      exact absurd h.1 (by decide)
    rw [lowerAfter, if_neg hsigma, lowerForm_of_ascii h.1, ih h.2]
    rfl

/-- A character outside of ASCII leaves a trace in the lower-case form of a text. -/
theorem exists_foreign_of_lowerAfter {before cs : List Char} {c : Char} (hc : c ∈ cs)
    (h : 128 ≤ c.toNat) : ∃ d ∈ lowerAfter before cs, IsForeign d.toNat := by
  induction cs generalizing before with
  | nil => cases hc
  | cons first cs ih =>
    rw [lowerAfter]
    rcases List.mem_cons.1 hc with rfl | hc
    · have hform : ∃ d ∈
          if c = 'Σ' then if meetsCased before && !meetsCased cs then ['ς'] else ['σ']
          else lowerForm c, IsForeign d.toNat := by
        split
        · split
          · exact ⟨'ς', List.mem_singleton_self _, .inl (by decide)⟩
          · exact ⟨'σ', List.mem_singleton_self _, .inl (by decide)⟩
        · exact exists_foreign_of_lowerForm h
      obtain ⟨d, hd, hforeign⟩ := hform
      exact ⟨d, List.mem_append_left _ hd, hforeign⟩
    · obtain ⟨d, hd, hforeign⟩ := ih hc
      exact ⟨d, List.mem_append_right _ hd, hforeign⟩

/-- A text of ASCII without the letter `k`: such a text is the lower-case form of no others than
its own spellings. -/
def IsPlain (word : String) : Prop := ∀ d ∈ word.toList, ¬ IsForeign d.toNat

instance : DecidablePred IsPlain := fun word =>
  List.decidableBAll (fun d : Char => ¬ IsForeign d.toNat) word.toList

theorem asciiLower_of_le {c : Char} (h : 128 ≤ c.toNat) : asciiLower c = c := by
  have hc : ¬ ('A' ≤ c ∧ c ≤ 'Z') := by
    rintro ⟨-, hz⟩
    have hz' : c.toNat ≤ 90 := hz
    omega
  rw [asciiLower, if_neg (by simpa using hc)]

/-- A token that spells a plain word is a text of ASCII. -/
theorem Respells.ascii {word token : String} (h : Respells word token) (hw : IsPlain word) :
    ∀ c ∈ token.toList, c.toNat < 128 := by
  intro c hc
  rw [← Nat.not_le]
  intro hn
  have hmem : asciiLower c ∈ word.toList := h ▸ List.mem_map_of_mem hc
  rw [asciiLower_of_le hn] at hmem
  exact hw c hmem (.inl hn)

/-- A text has a plain word for its lower-case form exactly if it spells the word, its letters being
letters of ASCII in either case. -/
theorem lower_eq_iff {word token : String} (hw : IsPlain word) :
    lower token = word ↔ Respells word token := by
  have hlist : lower token = word ↔ lowerChars token.toList = word.toList := by
    rw [← String.toList_inj, lower, String.toList_ofList]
  rw [hlist]
  constructor
  · intro h
    have hascii : ∀ c ∈ token.toList, c.toNat < 128 := by
      intro c hc
      rw [← Nat.not_le]
      intro hn
      obtain ⟨d, hd, hforeign⟩ := exists_foreign_of_lowerAfter hc hn
      exact hw d (h ▸ hd) hforeign
    rw [Respells, ← lowerAfter_of_ascii hascii]
    exact h
  · intro h
    rw [lowerChars, lowerAfter_of_ascii (h.ascii hw)]
    exact h

/-- The sign for kelvin is why no plain word has a `k`. -/
example : lower "\u212a" = "k" ∧ ¬ Respells "k" "\u212a" := by decide +kernel

/-! ## Vocabularies -/

section

variable {α : Type}

/-- The words of a list are plain, and no two of them are the same. -/
structure IsVocabulary (words : List (String × α)) : Prop where
  plain : ∀ entry ∈ words, IsPlain entry.1
  nodup : (words.map Prod.fst).Nodup

/-- A token spells one of the words of a list that stand for `a`. -/
def Names (words : List (String × α)) (token : String) (a : α) : Prop :=
  ∃ word, (word, a) ∈ words ∧ Respells word token

theorem lookup_eq_some_of_mem {words : List (String × α)} (hn : (words.map Prod.fst).Nodup)
    {word : String} {a : α} (h : (word, a) ∈ words) : words.lookup word = some a := by
  induction words with
  | nil => cases h
  | cons entry words ih =>
    obtain ⟨first, b⟩ := entry
    rw [List.map_cons, List.nodup_cons] at hn
    rcases List.mem_cons.1 h with heq | hmem
    · cases heq
      exact List.lookup_cons_self
    · have hne : word ≠ first := by
        rintro rfl
        exact hn.1 (List.mem_map.2 ⟨_, hmem, rfl⟩)
      rw [List.lookup_cons, beq_false_of_ne hne]
      exact ih hn.2 hmem

/-- Looking up the lower-case form of a token finds what the word stands for that the token spells,
whatever the case of its letters, and nothing if it spells none. -/
theorem lookup_lower_iff {words : List (String × α)} (h : IsVocabulary words) {token : String}
    {a : α} : words.lookup (lower token) = some a ↔ Names words token a := by
  constructor
  · intro hlookup
    have hmem := mem_of_lookup hlookup
    exact ⟨lower token, hmem, (lower_eq_iff (h.plain _ hmem)).1 rfl⟩
  · rintro ⟨word, hmem, hspelled⟩
    rw [(lower_eq_iff (h.plain _ hmem)).2 hspelled]
    exact lookup_eq_some_of_mem h.nodup hmem

end

end Groundwork.Text
