import Groundwork.Inflection.Plural
import Groundwork.Proofs.Text.Character
import Groundwork.Identifier

/-!
# The shape of table names

Whatever a type is called, its snake case consists of letters, numbers and underscores
(`word_of_mem_snakeChars`). A plural adds ASCII letters to what stays of a word (`mem_pluralChars`)
and is never empty (`pluralChars_ne_nil`): a rule that puts nothing for its ending keeps a stem. So
the name of a table is a non-empty text of letters, numbers and underscores
(`isIdentifierTail_tableName`, `tableName_ne_empty`).
-/

namespace Groundwork.Inflection

open Text

variable {word : List Char} {c : Char}

/-! ## Snake case -/

theorem word_of_mem_snakeFrom {name rest : List Char} {fresh : Bool} {offset : Nat}
    (h : c ∈ snakeFrom name fresh offset rest) : isAlphanumeric c = true ∨ c = '_' := by
  induction rest generalizing fresh offset with
  | nil => simp [snakeFrom] at h
  | cons d rest ih =>
    rw [snakeFrom] at h
    split at h
    · -- a separator leaves an underscore or nothing
      split at h
      · exact ih h
      · rcases List.mem_cons.1 h with rfl | h
        · exact .inr rfl
        · exact ih h
    · next hd =>
      have hlower : isAlphanumeric (asciiLower d) = true :=
        alphanumeric_asciiLower (by simpa using hd)
      split at h
      · rcases List.mem_cons.1 h with rfl | h
        · exact .inr rfl
        · rcases List.mem_cons.1 h with rfl | h
          · exact .inl hlower
          · exact ih h
      · rcases List.mem_cons.1 h with rfl | h
        · exact .inl hlower
        · exact ih h

theorem word_of_mem_snakeChars (h : c ∈ snakeChars word) : isAlphanumeric c = true ∨ c = '_' :=
  word_of_mem_snakeFrom h

/-! ## Rules -/

theorem take_ne_nil_of_fits {stem : Stem} {back : List Char} (hs : stem ≠ [])
    (h : fits stem back = true) (n : Nat) (hn : 0 < n) : back.take n ≠ [] := by
  cases stem with
  | nil => exact absurd rfl hs
  | cons slot stem =>
    cases back with
    | nil => simp [fits] at h
    | cons c back => simp [Nat.ne_of_gt hn]

/-- What a rule keeps is part of the text, and there is some of it if the stem is not empty. -/
theorem keptBefore_cases {back kept : List Char} {stem : Stem} {ending : String}
    (h : keptBefore back stem ending = some kept) :
    kept ⊆ back ∧ (stem ≠ [] → kept ≠ []) := by
  simp only [keptBefore] at h
  split at h
  · split at h
    · next hf =>
      obtain rfl := Option.some.inj h
      refine ⟨List.append_subset.2 ⟨fun d hd => ?_, fun d hd => ?_⟩, fun hs => ?_⟩
      · exact List.mem_of_mem_drop (List.mem_of_mem_take hd)
      · exact List.mem_of_mem_drop (List.mem_of_mem_drop ((List.takeWhile_sublist _).mem hd))
      · have ht := take_ne_nil_of_fits (by simpa using hs) hf stem.length (List.length_pos_iff.2 hs)
        exact List.append_ne_nil_of_left_ne_nil ht _
    · simp at h
  · simp at h

theorem form?_cases {rule : EndingRule} {formed : List Char} (h : rule.form? word = some formed) :
    ∃ stem ∈ rule.stems, ∃ kept, kept ⊆ word ∧ (stem ≠ [] → kept ≠ []) ∧
      formed = kept ++ rule.plural.toList := by
  simp only [EndingRule.form?, Option.map_eq_some_iff] at h
  obtain ⟨kept, hk, rfl⟩ := h
  obtain ⟨ending, -, hk⟩ := List.exists_of_findSome?_eq_some hk
  obtain ⟨stem, hs, hk⟩ := List.exists_of_findSome?_eq_some hk
  obtain ⟨hsub, hne⟩ := keptBefore_cases hk
  exact ⟨stem, hs, kept.reverse, fun d hd => by simpa using hsub (List.mem_reverse.1 hd),
    by simpa using hne, rfl⟩

/-! ## Plurals -/

/-- Where a plural comes from: it is a word that stays, a listed one, one that a rule forms, or the
word with an `s`. -/
theorem pluralChars_cases (word : List Char) :
    (∃ w ∈ uncountable, pluralChars word = w.toList ∧ w.toList = word) ∨
      (∃ w ∈ irregular, pluralChars word = w.2.toList) ∨
      (∃ rule ∈ endingRules, rule.form? word = some (pluralChars word)) ∨
      pluralChars word = word ++ ['s'] := by
  unfold pluralChars
  split
  · next hu =>
    obtain ⟨w, hw, he⟩ := List.any_eq_true.1 hu
    exact .inl ⟨w, hw, (beq_iff_eq.1 he).symm, beq_iff_eq.1 he⟩
  · split
    · next hi => exact .inr (.inl ⟨_, List.mem_of_find?_eq_some hi, rfl⟩)
    · rcases hf : endingRules.findSome? (·.form? word) with _ | formed
      · exact .inr (.inr (.inr (by rw [hf, Option.getD_none])))
      · obtain ⟨rule, hr, hform⟩ := List.exists_of_findSome?_eq_some hf
        exact .inr (.inr (.inl ⟨rule, hr, by rw [hform, hf, Option.getD_some]⟩))

theorem mem_pluralChars (h : c ∈ pluralChars word) : c ∈ word ∨ isAsciiLetter c = true := by
  obtain ⟨w, -, hp, hw⟩ | ⟨w, hw, hp⟩ | ⟨rule, hr, hf⟩ | hp := pluralChars_cases word
  · exact .inl (by rwa [hp, hw] at h)
  · have hl : (irregular.all (·.2.toList.all isAsciiLetter)) = true := by decide
    rw [hp] at h
    exact .inr (List.all_eq_true.1 (List.all_eq_true.1 hl w hw) c h)
  · have hl : (endingRules.all (·.plural.toList.all isAsciiLetter)) = true := by decide
    obtain ⟨-, -, kept, hk, -, he⟩ := form?_cases hf
    rw [he, List.mem_append] at h
    rcases h with h | h
    · exact .inl (hk h)
    · exact .inr (List.all_eq_true.1 (List.all_eq_true.1 hl rule hr) c h)
  · rw [hp, List.mem_append, List.mem_singleton] at h
    rcases h with h | rfl
    · exact .inl h
    · exact .inr (by decide)

theorem pluralChars_ne_nil (word : List Char) : pluralChars word ≠ [] := by
  obtain ⟨w, hw, hp, -⟩ | ⟨w, hw, hp⟩ | ⟨rule, hr, hf⟩ | hp := pluralChars_cases word
  · have hl : (uncountable.all (!·.toList.isEmpty)) = true := by decide
    rw [hp]
    simpa using List.all_eq_true.1 hl w hw
  · have hl : (irregular.all (!·.2.toList.isEmpty)) = true := by decide
    rw [hp]
    simpa using List.all_eq_true.1 hl w hw
  · -- a rule puts something for the ending, or it has only stems that are not empty
    have hl : (endingRules.all fun r =>
        !r.plural.toList.isEmpty || r.stems.all (!·.isEmpty)) = true := by decide
    obtain ⟨stem, hs, kept, -, hk, he⟩ := form?_cases hf
    have hrule := List.all_eq_true.1 hl rule hr
    rw [Bool.or_eq_true] at hrule
    rw [he]
    rcases hrule with hrule | hrule
    · simpa using fun _ => by simpa using hrule
    · have hstem : stem ≠ [] := by simpa using List.all_eq_true.1 hrule stem hs
      simp [hk hstem]
  · simp [hp]

/-! ## Table names -/

theorem isIdentifierTail_tableName (typeName : String) :
    isIdentifierTail (tableName typeName).toList = true := by
  refine List.all_eq_true.2 fun c hc => ?_
  rw [tableName, toList_plural, toList_snake] at hc
  rw [Bool.or_eq_true, beq_iff_eq]
  rcases mem_pluralChars hc with hc | hc
  · exact word_of_mem_snakeChars hc
  · exact .inl (alphanumeric_of_asciiLetter hc)

theorem tableName_ne_empty (typeName : String) : tableName typeName ≠ "" := by
  intro h
  exact pluralChars_ne_nil _ (by simpa [tableName] using congrArg String.toList h)

end Groundwork.Inflection
