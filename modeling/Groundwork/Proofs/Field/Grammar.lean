import Groundwork.Proofs.Entry
import Groundwork.Proofs.Text.Keyword
import Groundwork.Proofs.Text.Split
import Mathlib.Data.List.Induction

/-!
# The grammar of field entries

What an entry is made of is told without reference to how it is read: the name, the word for the
type, and the modifiers, with the literals of each type. Reading an entry accepts what the grammar
has and nothing else, and finds the field that is meant (`Field.parse_iff`). An entry outside of the
grammar is refused for the first thing that is wrong with it.
-/

namespace Groundwork

open Text Numeral

/-! ## Words -/

theorem isVocabulary_typeWords : IsVocabulary FieldType.words := ⟨by decide, by decide⟩

theorem isVocabulary_modifierWords : IsVocabulary Modifiers.words := ⟨by decide, by decide⟩

theorem isVocabulary_booleanWords : IsVocabulary Default.booleanWords := ⟨by decide, by decide⟩

theorem FieldType.ofWord?_iff {token : String} {type : FieldType} :
    ofWord? token = some type ↔ Names words token type :=
  lookup_lower_iff isVocabulary_typeWords

theorem Modifiers.Keyword.ofWord?_iff {token : String} {keyword : Keyword} :
    ofWord? token = some keyword ↔ Names words token keyword :=
  lookup_lower_iff isVocabulary_modifierWords

/-! ## Literals -/

namespace Default

/-- A literal spells a default of a type. -/
def Spelled (type : FieldType) (literal : String) (d : Default) : Prop :=
  match type with
  | .string | .text => d = .text literal
  | .integer => (∃ n, SpellsWhole literal.toList n ∧ -2 ^ 63 ≤ n ∧ n < 2 ^ 63) ∧ d = .number literal
  | .float | .decimal =>
    (∃ x, SpellsDecimal literal.toList x ∧ x.value < 2 ^ 1024 - 2 ^ 970) ∧ d = .number literal
  | .boolean => ∃ b, Names booleanWords literal b ∧ d = .boolean b
  | .dateTime | .date => Respells "now" literal ∧ d = .now
  | .json => False

theorem ofLiteral?_iff {type : FieldType} {literal : String} {d : Default} :
    ofLiteral? type literal = some d ↔ Spelled type literal d := by
  cases type
  case string | text =>
    rw [ofLiteral?, Option.some.injEq]
    exact eq_comm
  case integer =>
    rw [ofLiteral?, Option.ite_none_right_eq_some, integer?_any_fitsWord, Option.some.injEq]
    exact and_congr_right fun _ => eq_comm
  case float | decimal =>
    rw [ofLiteral?, Option.ite_none_right_eq_some, decimal?_any_fitsDouble, Option.some.injEq]
    exact and_congr_right fun _ => eq_comm
  case boolean =>
    rw [ofLiteral?, Option.map_eq_some_iff]
    exact exists_congr fun b => and_congr (lookup_lower_iff isVocabulary_booleanWords) eq_comm
  case dateTime | date =>
    rw [ofLiteral?, Option.ite_none_right_eq_some, Option.some.injEq]
    exact and_congr_right fun _ => eq_comm
  case json => exact ⟨nofun, nofun⟩

end Default

/-! ## Modifiers -/

namespace Modifiers

/-- A token has an equals sign: in front of the first one stands `word`, and after it `literal`,
blanks at their ends left out. -/
def Assigns (token word literal : String) : Prop :=
  ∃ before after, token.toList = before ++ '=' :: after ∧ '=' ∉ before ∧
    word = String.ofList (trimChars before) ∧ literal = String.ofList (trimChars after)

/-- A token gives a default in a column of a type: it is the word for the default alone, or that
word with a literal that spells the default. -/
def Gives (type : FieldType) (token : String) (d : Default) : Prop :=
  Respells "default" token ∧ d = .implicit ∨
    ∃ word literal, Assigns token word literal ∧ Respells "default" word ∧
      Default.Spelled type literal d

/-- A token is a modifier of a column of a type: a word for one of the flags, or one that gives a
default. -/
def IsModifier (type : FieldType) (token : String) : Prop :=
  Names words token .nullable ∨ Names words token .unique ∨ Names words token .index ∨
    ∃ d, Gives type token d

/-- A token is refused as a modifier of the column `field`: it is a default that does not fit the
type, or it is no modifier at all. -/
inductive Refused (field : String) (type : FieldType) (token : String) : EntryError → Prop
  /-- After the word for the default there is a literal that spells none. -/
  | invalidDefault {word literal : String} (h : Assigns token word literal)
    (hw : Respells "default" word) (hl : ∀ d, ¬ Default.Spelled type literal d) :
    Refused field type token (.invalidDefault field type literal)
  /-- The token is not a modifier, not even one with a wrong literal. -/
  | unknownModifier (h : ¬ IsModifier type token)
    (hd : ∀ word literal, Assigns token word literal → ¬ Respells "default" word) :
    Refused field type token (.unknownModifier field token)

/-! ### Equals signs -/

theorem cutValue_of_not_mem {token : String} (h : '=' ∉ token.toList) :
    cutValue token = (token, none) := by
  rw [cutValue, cutFirst_of_not_mem h]

theorem cutValue_of_assigns {token word literal : String} (h : Assigns token word literal) :
    cutValue token = (word, some literal) := by
  obtain ⟨before, after, htoken, hmem, rfl, rfl⟩ := h
  rw [cutValue, htoken, cutFirst_append_cons hmem]

/-- A token either has no equals sign or is cut at the first one. -/
theorem assigns_or_not_mem (token : String) :
    '=' ∉ token.toList ∨ ∃ word literal, Assigns token word literal := by
  by_cases h : '=' ∈ token.toList
  · obtain ⟨before, after, htoken, hmem⟩ := List.eq_append_cons_of_mem h
    exact .inr ⟨_, _, before, after, htoken, hmem, rfl, rfl⟩
  · exact .inl h

theorem Assigns.mem {token word literal : String} (h : Assigns token word literal) :
    '=' ∈ token.toList := by
  obtain ⟨before, after, htoken, -⟩ := h
  rw [htoken]
  exact List.mem_append_right _ List.mem_cons_self

theorem Assigns.unique {token word literal word' literal' : String}
    (h : Assigns token word literal) (h' : Assigns token word' literal') :
    word = word' ∧ literal = literal' := by
  have heq := (cutValue_of_assigns h).symm.trans (cutValue_of_assigns h')
  simpa using heq

/-! ### One modifier -/

theorem not_mem_of_names {token : String} {keyword : Keyword} (h : Names words token keyword) :
    '=' ∉ token.toList := by
  intro hmem
  obtain ⟨word, hword, hspelled⟩ := h
  have hplain : ∀ entry ∈ words, '=' ∉ entry.1.toList := by decide
  have hlower : asciiLower '=' ∈ token.toList.map asciiLower := List.mem_map_of_mem hmem
  rw [hspelled] at hlower
  exact hplain _ hword hlower

theorem names_default {token : String} : Names words token .default ↔ Respells "default" token := by
  simp [Names, words]

theorem names_unique {token : String} {keyword keyword' : Keyword}
    (h : Names words token keyword) (h' : Names words token keyword') : keyword = keyword' := by
  rw [← Keyword.ofWord?_iff] at h h'
  exact Option.some.inj (h.symm.trans h')

theorem gives_of_not_mem {type : FieldType} {token : String} {d : Default}
    (h : '=' ∉ token.toList) : Gives type token d ↔ Names words token .default ∧ d = .implicit := by
  rw [names_default]
  exact or_iff_left fun ⟨_, _, hassigns, _⟩ => h hassigns.mem

theorem gives_of_assigns {type : FieldType} {token word literal : String} {d : Default}
    (h : Assigns token word literal) :
    Gives type token d ↔ Names words word .default ∧ Default.Spelled type literal d := by
  rw [names_default]
  constructor
  · rintro (⟨hword, -⟩ | ⟨word', literal', hassigns, hword, hliteral⟩)
    · exact absurd h.mem (not_mem_of_names (names_default.2 hword))
    · obtain ⟨rfl, rfl⟩ := h.unique hassigns
      exact ⟨hword, hliteral⟩
  · rintro ⟨hword, hliteral⟩
    exact .inr ⟨word, literal, h, hword, hliteral⟩

/-- A modifier names a flag, that is something else than the default, or it gives a default. -/
theorem isModifier_iff {type : FieldType} {token : String} :
    IsModifier type token ↔
      (∃ keyword, keyword ≠ .default ∧ Names words token keyword) ∨ ∃ d, Gives type token d := by
  constructor
  · rintro (hk | hk | hk | hd)
    · exact .inl ⟨.nullable, nofun, hk⟩
    · exact .inl ⟨.unique, nofun, hk⟩
    · exact .inl ⟨.index, nofun, hk⟩
    · exact .inr hd
  · rintro (⟨keyword, hne, hk⟩ | hd)
    · cases keyword with
      | nullable => exact .inl hk
      | unique => exact .inr (.inl hk)
      | index => exact .inr (.inr (.inl hk))
      | default => exact absurd rfl hne
    · exact .inr (.inr (.inr hd))

/-- What comes of taking a token into account after the modifiers `ms`. -/
inductive Adds (field : String) (type : FieldType) (ms : Modifiers) (token : String) :
    Except EntryError Modifiers → Prop
  | nullable (h : Names words token .nullable) :
    Adds field type ms token (.ok { ms with nullable := true })
  | unique (h : Names words token .unique) :
    Adds field type ms token (.ok { ms with unique := true })
  | index (h : Names words token .index) : Adds field type ms token (.ok { ms with index := true })
  | default {d : Default} (h : Gives type token d) :
    Adds field type ms token (.ok { ms with default := some d })
  | refused {cause : EntryError} (h : Refused field type token cause) :
    Adds field type ms token (.error cause)

variable {field : String} {type : FieldType} {ms : Modifiers} {token : String}

/-- A token without an equals sign is a word for a flag, the word for the default, or refused. -/
theorem adds_of_not_mem (h : '=' ∉ token.toList) :
    Adds field type ms token (add field type ms token) := by
  have hcut := cutValue_of_not_mem h
  rcases hword : Keyword.ofWord? token with _ | keyword
  · have hnone : ∀ keyword, ¬ Names words token keyword := fun keyword hk => by
      rw [← Keyword.ofWord?_iff, hword] at hk
      cases hk
    have hadd : add field type ms token = .error (.unknownModifier field token) := by
      simp only [add, hcut, hword]
    rw [hadd]
    refine .refused (.unknownModifier ?_ fun _ _ hassigns => absurd hassigns.mem h)
    rw [isModifier_iff]
    rintro (⟨keyword, -, hk⟩ | ⟨d, hd⟩)
    · exact hnone keyword hk
    · exact hnone _ ((gives_of_not_mem h).1 hd).1
  · have hnames := Keyword.ofWord?_iff.1 hword
    cases keyword <;> simp only [add, hcut, hword]
    · exact .nullable hnames
    · exact .unique hnames
    · exact .index hnames
    · exact .default ((gives_of_not_mem h).2 ⟨hnames, rfl⟩)

/-- A token with an equals sign gives a default or is refused. -/
theorem adds_of_assigns {word literal : String} (h : Assigns token word literal) :
    Adds field type ms token (add field type ms token) := by
  have hcut := cutValue_of_assigns h
  have hflag (keyword : Keyword) : ¬ Names words token keyword := fun hk =>
    not_mem_of_names hk h.mem
  by_cases hdefault : Names words word .default
  · have hword := Keyword.ofWord?_iff.2 hdefault
    rcases hliteral : Default.ofLiteral? type literal with _ | d
    · have hadd : add field type ms token = .error (.invalidDefault field type literal) := by
        simp only [add, hcut, hword, hliteral]
      rw [hadd]
      refine .refused (.invalidDefault h (names_default.1 hdefault) fun d hd => ?_)
      rw [← Default.ofLiteral?_iff, hliteral] at hd
      cases hd
    · have hadd : add field type ms token = .ok { ms with default := some d } := by
        simp only [add, hcut, hword, hliteral]
      rw [hadd]
      exact .default ((gives_of_assigns h).2 ⟨hdefault, Default.ofLiteral?_iff.1 hliteral⟩)
  · have hadd : add field type ms token = .error (.unknownModifier field token) := by
      rcases hword : Keyword.ofWord? word with _ | keyword
      · simp only [add, hcut, hword]
      · cases keyword
        case default => exact absurd (Keyword.ofWord?_iff.1 hword) hdefault
        all_goals simp only [add, hcut, hword]
    rw [hadd]
    refine .refused (.unknownModifier ?_ fun word' literal' hassigns hword => ?_)
    · rw [isModifier_iff]
      rintro (⟨keyword, -, hk⟩ | ⟨d, hd⟩)
      · exact hflag keyword hk
      · exact hdefault ((gives_of_assigns h).1 hd).1
    · obtain ⟨rfl, rfl⟩ := h.unique hassigns
      exact hdefault (names_default.2 hword)

theorem adds_add (field : String) (type : FieldType) (ms : Modifiers) (token : String) :
    Adds field type ms token (add field type ms token) := by
  obtain h | ⟨word, literal, h⟩ := assigns_or_not_mem token
  · exact adds_of_not_mem h
  · exact adds_of_assigns h

theorem Refused.not_isModifier {cause : EntryError} (h : Refused field type token cause) :
    ¬ IsModifier type token := by
  cases h with
  | invalidDefault h hw hl =>
    rw [isModifier_iff]
    rintro (⟨keyword, -, hk⟩ | ⟨d, hd⟩)
    · exact not_mem_of_names hk h.mem
    · exact hl d ((gives_of_assigns h).1 hd).2
  | unknownModifier h => exact h

theorem Refused.unique {cause cause' : EntryError} (h : Refused field type token cause)
    (h' : Refused field type token cause') : cause = cause' := by
  cases h with
  | invalidDefault h hw =>
    cases h' with
    | invalidDefault h' =>
      obtain ⟨-, rfl⟩ := h.unique h'
      rfl
    | unknownModifier _ hd => exact absurd hw (hd _ _ h)
  | unknownModifier _ hd =>
    cases h' with
    | invalidDefault h' hw => exact absurd hw (hd _ _ h')
    | unknownModifier => rfl

theorem add_error_iff {cause : EntryError} :
    add field type ms token = .error cause ↔ Refused field type token cause := by
  have hadds := adds_add field type ms token
  constructor
  · intro h
    rw [h] at hadds
    cases hadds with
    | refused h => exact h
  · intro h
    generalize add field type ms token = r at hadds
    cases hadds with
    | nullable hk | unique hk | index hk =>
      exact absurd (isModifier_iff.2 (.inl ⟨_, by decide, hk⟩)) h.not_isModifier
    | default hd => exact absurd (isModifier_iff.2 (.inr ⟨_, hd⟩)) h.not_isModifier
    | refused h' => rw [h.unique h']

theorem exists_add_ok (field : String) (ms : Modifiers) (h : IsModifier type token) :
    ∃ ms', add field type ms token = .ok ms' := by
  rcases ha : add field type ms token with cause | ms'
  · exact absurd h (add_error_iff.1 ha).not_isModifier
  · exact ⟨ms', rfl⟩

theorem isModifier_of_add_ok {ms' : Modifiers} (h : add field type ms token = .ok ms') :
    IsModifier type token := by
  have hadds := adds_add field type ms token
  rw [h] at hadds
  cases hadds with
  | nullable hk | unique hk | index hk => exact isModifier_iff.2 (.inl ⟨_, by decide, hk⟩)
  | default hd => exact isModifier_iff.2 (.inr ⟨_, hd⟩)

theorem Gives.unique {d d' : Default} (h : Gives type token d) (h' : Gives type token d') :
    d = d' := by
  obtain hmem | ⟨word, literal, hassigns⟩ := assigns_or_not_mem token
  · rw [gives_of_not_mem hmem] at h h'
    exact h.2.trans h'.2.symm
  · rw [gives_of_assigns hassigns, ← Default.ofLiteral?_iff] at h h'
    exact Option.some.inj (h.2.symm.trans h'.2)

theorem Gives.not_names {d : Default} {keyword : Keyword} (h : Gives type token d)
    (hne : keyword ≠ .default) : ¬ Names words token keyword := by
  intro hk
  have hdefault := ((gives_of_not_mem (not_mem_of_names hk)).1 h).1
  exact hne (names_unique hk hdefault)

/-! ### Modifiers one after the other -/

/-- The last of some tokens that gives a default gives `d`. -/
def GivesLast (type : FieldType) (tokens : List String) (d : Default) : Prop :=
  ∃ before token after, tokens = before ++ token :: after ∧ Gives type token d ∧
    ∀ later ∈ after, ∀ d', ¬ Gives type later d'

/-- Modifiers are what some tokens say: a flag is set if a token names it, and the default is the
one that is given last. -/
structure Collected (type : FieldType) (tokens : List String) (ms : Modifiers) : Prop where
  nullable : ms.nullable = true ↔ ∃ token ∈ tokens, Names words token .nullable
  unique : ms.unique = true ↔ ∃ token ∈ tokens, Names words token .unique
  index : ms.index = true ↔ ∃ token ∈ tokens, Names words token .index
  default : ∀ d, ms.default = some d ↔ GivesLast type tokens d
  noDefault : ms.default = none ↔ ∀ token ∈ tokens, ∀ d, ¬ Gives type token d

theorem collected_nil : Collected type [] {} where
  nullable := by simp
  unique := by simp
  index := by simp
  default := by simp [GivesLast]
  noDefault := by simp

theorem names_concat {tokens : List String} {keyword : Keyword} :
    (∃ t ∈ tokens ++ [token], Names words t keyword) ↔
      (∃ t ∈ tokens, Names words t keyword) ∨ Names words token keyword := by
  simp only [List.mem_append, List.mem_singleton, or_and_right, exists_or, exists_eq_left]

theorem givesLast_concat {tokens : List String} {d : Default} :
    GivesLast type (tokens ++ [token]) d ↔
      Gives type token d ∨ (∀ d', ¬ Gives type token d') ∧ GivesLast type tokens d := by
  constructor
  · rintro ⟨before, t, after, heq, ht, hlater⟩
    rcases List.eq_nil_or_concat after with rfl | ⟨after, last, rfl⟩
    · obtain ⟨-, hlast⟩ := List.append_inj' heq rfl
      cases hlast
      exact .inl ht
    · rw [List.concat_eq_append] at heq hlater
      rw [← List.cons_append, ← List.append_assoc] at heq
      obtain ⟨rfl, hlast⟩ := List.append_inj' heq rfl
      cases hlast
      rw [List.forall_mem_append] at hlater
      exact .inr ⟨hlater.2 token List.mem_cons_self, before, t, after, rfl, ht, hlater.1⟩
  · rintro (h | ⟨hnone, before, t, after, rfl, ht, hlater⟩)
    · exact ⟨tokens, token, [], rfl, h, nofun⟩
    · refine ⟨before, t, after ++ [token], by simp, ht, ?_⟩
      rw [List.forall_mem_append]
      exact ⟨hlater, List.forall_mem_singleton.2 hnone⟩

/-- What is said by a token is added to what has been said before it; only a default takes the place
of another. -/
theorem Adds.said {ms' : Modifiers} (h : Adds field type ms token (.ok ms')) :
    (ms'.nullable = true ↔ ms.nullable = true ∨ Names words token .nullable) ∧
    (ms'.unique = true ↔ ms.unique = true ∨ Names words token .unique) ∧
    (ms'.index = true ↔ ms.index = true ∨ Names words token .index) ∧
    ∀ d, ms'.default = some d ↔
      Gives type token d ∨ (∀ d', ¬ Gives type token d') ∧ ms.default = some d := by
  have hother {k : Keyword} (hk : Names words token k) (k' : Keyword) (hne : k' ≠ k) :
      ¬ Names words token k' := fun hk' => hne (names_unique hk' hk)
  have hsilent {k : Keyword} (hk : Names words token k) (hne : k ≠ .default) (d : Default) :
      ¬ Gives type token d := fun hd => hd.not_names hne hk
  cases h with
  | nullable hk => simp [hk, hother hk .unique nofun, hother hk .index nofun, hsilent hk nofun]
  | unique hk => simp [hk, hother hk .nullable nofun, hother hk .index nofun, hsilent hk nofun]
  | index hk => simp [hk, hother hk .nullable nofun, hother hk .unique nofun, hsilent hk nofun]
  | @default first hd =>
    have hflag (k : Keyword) (hne : k ≠ .default) : ¬ Names words token k := hd.not_names hne
    have hgives : ∀ d, first = d ↔ Gives type token d := fun d =>
      ⟨fun h => h ▸ hd, fun h => hd.unique h⟩
    have hspoken : ¬ ∀ d', ¬ Gives type token d' := fun h => h first hd
    simp [hflag .nullable nofun, hflag .unique nofun, hflag .index nofun, hgives, hspoken]

/-- One more token that is a modifier is collected. -/
theorem Collected.add {tokens : List String} {ms' : Modifiers} (h : Collected type tokens ms)
    (ha : ms.add field type token = .ok ms') : Collected type (tokens ++ [token]) ms' := by
  have hadds := adds_add field type ms token
  rw [ha] at hadds
  obtain ⟨hnullable, hunique, hindex, hdefault⟩ := hadds.said
  have hlast (d : Default) : ms'.default = some d ↔ GivesLast type (tokens ++ [token]) d := by
    rw [givesLast_concat, ← h.default]
    exact hdefault d
  refine ⟨?_, ?_, ?_, hlast, ?_⟩
  · rw [names_concat, ← h.nullable]
    exact hnullable
  · rw [names_concat, ← h.unique]
    exact hunique
  · rw [names_concat, ← h.index]
    exact hindex
  · rw [List.forall_mem_append, ← h.noDefault, List.forall_mem_singleton,
      Option.eq_none_iff_forall_ne_some, Option.eq_none_iff_forall_ne_some]
    constructor
    · intro hnone
      have hsilent : ∀ d, ¬ Gives type token d := fun d hd => hnone d ((hdefault d).2 (.inl hd))
      exact ⟨fun d hd => hnone d ((hdefault d).2 (.inr ⟨hsilent, hd⟩)), hsilent⟩
    · rintro ⟨hnone, hsilent⟩ d hd
      rcases (hdefault d).1 hd with hgives | ⟨-, hd⟩
      · exact hsilent d hgives
      · exact hnone d hd

theorem Collected.eq {tokens : List String} {ms' : Modifiers} (h : Collected type tokens ms)
    (h' : Collected type tokens ms') : ms = ms' := by
  have hnullable := Bool.eq_iff_iff.2 (h.nullable.trans h'.nullable.symm)
  have hunique := Bool.eq_iff_iff.2 (h.unique.trans h'.unique.symm)
  have hindex := Bool.eq_iff_iff.2 (h.index.trans h'.index.symm)
  have hdefault := Option.ext fun d => (h.default d).trans (h'.default d).symm
  cases ms
  cases ms'
  rw [mk.injEq]
  exact ⟨hnullable, hunique, hindex, hdefault⟩

/-- Modifiers one after the other are collected. -/
theorem collected_of_foldlM {tokens : List String}
    (h : tokens.foldlM (Modifiers.add field type) {} = .ok ms) :
    (∀ token ∈ tokens, IsModifier type token) ∧ Collected type tokens ms := by
  induction tokens using List.reverseRecOn generalizing ms with
  | nil =>
    obtain rfl := Except.ok.inj h
    exact ⟨nofun, collected_nil⟩
  | append_singleton tokens token ih =>
    rw [List.foldlM_append] at h
    obtain ⟨earlier, hearlier, h⟩ := bind_eq_ok.1 h
    rw [List.foldlM_cons] at h
    obtain ⟨next, hnext, h⟩ := bind_eq_ok.1 h
    obtain rfl := Except.ok.inj h
    obtain ⟨hall, hcollected⟩ := ih hearlier
    refine ⟨?_, hcollected.add hnext⟩
    rw [List.forall_mem_append]
    exact ⟨hall, List.forall_mem_singleton.2 (isModifier_of_add_ok hnext)⟩

theorem exists_foldlM_ok (field : String) (ms : Modifiers) {tokens : List String}
    (h : ∀ token ∈ tokens, IsModifier type token) :
    ∃ ms', tokens.foldlM (Modifiers.add field type) ms = .ok ms' := by
  induction tokens generalizing ms with
  | nil => exact ⟨ms, rfl⟩
  | cons token tokens ih =>
    rw [List.forall_mem_cons] at h
    obtain ⟨next, hnext⟩ := exists_add_ok field ms h.1
    obtain ⟨ms', hms'⟩ := ih next h.2
    exact ⟨ms', bind_eq_ok.2 ⟨next, hnext, hms'⟩⟩

/-- Tokens are refused for the first one that is no modifier. -/
theorem foldlM_error_iff {tokens : List String} {cause : EntryError} :
    tokens.foldlM (Modifiers.add field type) ms = .error cause ↔
      ∃ good bad rest, tokens = good ++ bad :: rest ∧ (∀ token ∈ good, IsModifier type token) ∧
        Refused field type bad cause := by
  constructor
  · intro h
    induction tokens generalizing ms with
    | nil => cases h
    | cons token tokens ih =>
      rw [List.foldlM_cons] at h
      obtain hadd | ⟨next, hnext, h⟩ := bind_eq_error.1 h
      · exact ⟨[], token, tokens, rfl, nofun, add_error_iff.1 hadd⟩
      · obtain ⟨good, bad, rest, rfl, hgood, hbad⟩ := ih h
        refine ⟨token :: good, bad, rest, rfl, ?_, hbad⟩
        rw [List.forall_mem_cons]
        exact ⟨isModifier_of_add_ok hnext, hgood⟩
  · rintro ⟨good, bad, rest, rfl, hgood, hbad⟩
    obtain ⟨earlier, hearlier⟩ := exists_foldlM_ok field ms hgood
    rw [List.foldlM_append]
    refine bind_eq_error.2 (.inr ⟨earlier, hearlier, ?_⟩)
    rw [List.foldlM_cons]
    exact bind_eq_error.2 (.inl (add_error_iff.2 hbad))

end Modifiers

/-! ## Entries -/

namespace Field

/-- A text is the name of a field: it begins with a letter or an underscore and goes on with
letters, numbers and underscores. -/
def IsName (name : String) : Prop :=
  ∃ c cs, name.toList = c :: cs ∧ (isAlphabetic c = true ∨ c = '_') ∧
    ∀ d ∈ cs, isAlphanumeric d = true ∨ d = '_'

theorem isMemberName_iff {name : String} : isMemberName name = true ↔ IsName name := by
  unfold isMemberName IsName
  rcases name.toList with _ | ⟨c, cs⟩
  · simp
  · simp [isIdentifierTail]

theorem IsName.ne_empty {name : String} (h : IsName name) : name ≠ "" := by
  rintro rfl
  obtain ⟨c, cs, h, -⟩ := h
  cases h

/-- The parts of an entry are well formed: a name, a word for a type, and modifiers. -/
def WellFormed (parts : List String) : Prop :=
  ∃ name token tokens type, parts = name :: token :: tokens ∧ IsName name ∧
    Names FieldType.words token type ∧ ∀ modifier ∈ tokens, Modifiers.IsModifier type modifier

/-- The parts of an entry spell a field. -/
def Spelled (parts : List String) (field : Field) : Prop :=
  ∃ token tokens, parts = field.name :: token :: tokens ∧ IsName field.name ∧
    Names FieldType.words token field.type ∧
    (∀ modifier ∈ tokens, Modifiers.IsModifier field.type modifier) ∧
    Modifiers.Collected field.type tokens field.modifiers

/-- The first thing that is wrong with the parts of an entry. -/
inductive Refused (entry : String) : List String → EntryError → Prop
  /-- The name is blank. -/
  | emptyName {parts : List String} : Refused entry ("" :: parts) (.emptyName entry)
  /-- The name has not the shape of a name. -/
  | invalidName {name : String} {parts : List String} (hne : name ≠ "") (hn : ¬ IsName name) :
    Refused entry (name :: parts) (.invalidName entry name)
  /-- There is no type. -/
  | missingType {name : String} (hn : IsName name) : Refused entry [name] (.missingType entry)
  /-- The type is blank. -/
  | blankType {name : String} {tokens : List String} (hn : IsName name) :
    Refused entry (name :: "" :: tokens) (.missingType entry)
  /-- The type is no word for a type. -/
  | unknownType {name token : String} {tokens : List String} (hn : IsName name) (hne : token ≠ "")
    (ht : ∀ type, ¬ Names FieldType.words token type) :
    Refused entry (name :: token :: tokens) (.unknownType name token)
  /-- After good modifiers there is a bad one. -/
  | modifier {name token bad : String} {type : FieldType} {good rest : List String}
    {cause : EntryError} (hn : IsName name) (ht : Names FieldType.words token type)
    (hgood : ∀ modifier ∈ good, Modifiers.IsModifier type modifier)
    (hbad : Modifiers.Refused name type bad cause) :
    Refused entry (name :: token :: (good ++ bad :: rest)) cause

variable {entry : String} {parts : List String}

theorem ne_empty_of_names {token : String} {type : FieldType}
    (h : Names FieldType.words token type) : token ≠ "" := by
  rintro rfl
  rw [← FieldType.ofWord?_iff] at h
  cases type <;> exact absurd h (by decide)

/-- After a name and a type the modifiers are taken into account one after the other. -/
theorem ofParts_of_names {name token : String} {type : FieldType} (tokens : List String)
    (hn : IsName name) (ht : Names FieldType.words token type) :
    ofParts entry (name :: token :: tokens) =
      tokens.foldlM (Modifiers.add name type) {} >>= fun ms => pure ⟨name, type, ms⟩ := by
  simp only [ofParts, hn.ne_empty, isMemberName_iff.2 hn, ne_empty_of_names ht,
    FieldType.ofWord?_iff.2 ht, Bool.not_true, Bool.false_eq_true, if_false]

theorem spelled_of_ofParts {field : Field} (h : ofParts entry parts = .ok field) :
    Spelled parts field := by
  unfold ofParts at h
  split at h
  · cases h
  · next name rest =>
    split_ifs at h with hempty hname
    rw [Bool.not_eq_true, Bool.not_eq_false', isMemberName_iff] at hname
    split at h
    · cases h
    · next token tokens =>
      split_ifs at h with hblank
      split at h
      · cases h
      · next type htype =>
        obtain ⟨ms, hms, h⟩ := bind_eq_ok.1 h
        obtain rfl := Except.ok.inj h
        obtain ⟨hall, hcollected⟩ := Modifiers.collected_of_foldlM hms
        exact ⟨token, tokens, rfl, hname, FieldType.ofWord?_iff.1 htype, hall, hcollected⟩

theorem refused_of_ofParts {cause : EntryError} (hne : parts ≠ [])
    (h : ofParts entry parts = .error cause) : Refused entry parts cause := by
  unfold ofParts at h
  split at h
  · exact absurd rfl hne
  · next name rest =>
    split_ifs at h with hempty hname
    · cases h
      rw [hempty]
      exact .emptyName
    · cases h
      rw [Bool.not_eq_true', ← Bool.not_eq_true, isMemberName_iff] at hname
      exact .invalidName hempty hname
    · rw [Bool.not_eq_true, Bool.not_eq_false', isMemberName_iff] at hname
      split at h
      · cases h
        exact .missingType hname
      · next token tokens =>
        split_ifs at h with hblank
        · cases h
          rw [hblank]
          exact .blankType hname
        · split at h
          · next htype =>
            cases h
            refine .unknownType hname hblank fun type ht => ?_
            rw [FieldType.ofWord?_iff.2 ht] at htype
            cases htype
          · next type htype =>
            obtain h | ⟨ms, -, h⟩ := bind_eq_error.1 h
            · obtain ⟨good, bad, rest, rfl, hgood, hbad⟩ := Modifiers.foldlM_error_iff.1 h
              exact .modifier hname (FieldType.ofWord?_iff.1 htype) hgood hbad
            · cases h

theorem ofParts_of_spelled {field : Field} (h : Spelled parts field) :
    ofParts entry parts = .ok field := by
  obtain ⟨token, tokens, rfl, hn, ht, hall, hcollected⟩ := h
  obtain ⟨ms, hms⟩ := Modifiers.exists_foldlM_ok field.name {} hall
  obtain rfl := (Modifiers.collected_of_foldlM hms).2.eq hcollected
  rw [ofParts_of_names tokens hn ht, hms]
  rfl

theorem ofParts_of_refused {cause : EntryError} (h : Refused entry parts cause) :
    ofParts entry parts = .error cause := by
  cases h with
  | emptyName => rfl
  | invalidName hne hn =>
    rw [← isMemberName_iff, Bool.not_eq_true] at hn
    simp only [ofParts, hne, hn, Bool.not_false, if_true, if_false]
  | missingType hn =>
    simp only [ofParts, hn.ne_empty, isMemberName_iff.2 hn, Bool.not_true, Bool.false_eq_true,
      if_false]
  | blankType hn =>
    simp only [ofParts, hn.ne_empty, isMemberName_iff.2 hn, Bool.not_true, Bool.false_eq_true,
      if_false, if_true]
  | unknownType hn hne ht =>
    have hnone : FieldType.ofWord? _ = none :=
      Option.eq_none_iff_forall_ne_some.2 fun type h => ht type (FieldType.ofWord?_iff.1 h)
    simp only [ofParts, hn.ne_empty, isMemberName_iff.2 hn, hne, hnone, Bool.not_true,
      Bool.false_eq_true, if_false]
  | modifier hn ht hgood hbad =>
    rw [ofParts_of_names _ hn ht]
    exact bind_eq_error.2 (.inl (Modifiers.foldlM_error_iff.2 ⟨_, _, _, rfl, hgood, hbad⟩))

/-- **An entry is accepted exactly if it belongs to the grammar.** Its parts, cut at the colons and
trimmed, are then a name, a word for a type and modifiers, and the field that is found is the one
that they spell: a flag is set if one of the modifiers names it, and the default is the one that is
given last. An entry outside of the grammar is refused for the first thing that is wrong: the name,
then the type, then the modifiers from left to right. -/
theorem parse_iff (entry : String) :
    ((∃ field, parse entry = .ok field) ↔ WellFormed ((split ':' entry).map trim)) ∧
    (∀ field, parse entry = .ok field ↔ Spelled ((split ':' entry).map trim) field) ∧
    ∀ cause, parse entry = .error cause ↔ Refused entry ((split ':' entry).map trim) cause := by
  have hne : (split ':' entry).map trim ≠ [] := by
    simp [split, pieces_ne_nil]
  rw [parse]
  generalize (split ':' entry).map trim = parts at hne
  refine ⟨⟨?_, ?_⟩, fun field => ⟨spelled_of_ofParts, ofParts_of_spelled⟩,
    fun cause => ⟨refused_of_ofParts hne, ofParts_of_refused⟩⟩
  · rintro ⟨field, h⟩
    obtain ⟨token, tokens, rfl, hn, ht, hall, -⟩ := spelled_of_ofParts h
    exact ⟨_, token, tokens, _, rfl, hn, ht, hall⟩
  · rintro ⟨name, token, tokens, type, rfl, hn, ht, hall⟩
    obtain ⟨ms, hms⟩ := Modifiers.exists_foldlM_ok name {} hall
    rw [ofParts_of_names tokens hn ht, hms]
    exact ⟨_, rfl⟩

end Field

end Groundwork
