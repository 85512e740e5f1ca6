import Groundwork.Proofs.Field.Grammar
import Groundwork.Proofs.Text.Trim

/-!
# Modifiers in another order

An entry is rearranged by putting its modifiers in another order, or by giving one of them more or
less often. What comes of it is accepted again, as a field that differs at most in its default
(`Modifiers.Collected.rearranged`): flags are set no matter where and how often they are named, but
of several defaults the last one counts. So modifiers form a set exactly where no two of them give
different defaults (`Field.parse_rearranged`).
-/

namespace Groundwork

open Text

/-! ## Modifiers -/

namespace Modifiers

variable {type : FieldType} {tokens tokens' : List String} {ms ms' : Modifiers}

/-- No two of some tokens give different defaults. -/
def AgreeOnDefault (type : FieldType) (tokens : List String) : Prop :=
  ∀ token ∈ tokens, ∀ token' ∈ tokens, ∀ d d',
    Gives type token d → Gives type token' d' → d = d'

/-- The default that a token gives, if it gives one. -/
def given? (type : FieldType) (token : String) : Option Default :=
  match add "" type {} token with
  | .ok ms => ms.default
  | .error _ => none

theorem given?_eq_some_iff {token : String} {d : Default} :
    given? type token = some d ↔ Gives type token d := by
  have hadds := adds_add "" type {} token
  unfold given?
  generalize add "" type {} token = result at hadds
  cases hadds with
  | nullable hk | unique hk | index hk =>
    exact ⟨nofun, fun hd => absurd hk (hd.not_names (by decide))⟩
  | default hd' => exact ⟨fun h => Option.some.inj h ▸ hd', fun hd => congrArg some (hd'.unique hd)⟩
  | refused hr =>
    exact ⟨nofun, fun hd => absurd (isModifier_iff.2 (.inr ⟨d, hd⟩)) hr.not_isModifier⟩

theorem agreeOnDefault_iff :
    AgreeOnDefault type tokens ↔
      ∀ d ∈ tokens.filterMap (given? type), ∀ d' ∈ tokens.filterMap (given? type), d = d' := by
  simp only [AgreeOnDefault, List.mem_filterMap, given?_eq_some_iff]
  constructor
  · rintro h d ⟨token, htoken, hd⟩ d' ⟨token', htoken', hd'⟩
    exact h token htoken token' htoken' d d' hd hd'
  · intro h token htoken token' htoken' d d' hd hd'
    exact h d ⟨token, htoken, hd⟩ d' ⟨token', htoken', hd'⟩

instance (type : FieldType) (tokens : List String) : Decidable (AgreeOnDefault type tokens) :=
  decidable_of_iff _ agreeOnDefault_iff.symm

theorem GivesLast.exists_gives {d : Default} (h : GivesLast type tokens d) :
    ∃ token ∈ tokens, Gives type token d := by
  obtain ⟨before, token, after, rfl, hgives, -⟩ := h
  exact ⟨token, List.mem_append_right _ List.mem_cons_self, hgives⟩

/-- The default of collected modifiers is given by one of them. -/
theorem Collected.exists_gives (h : Collected type tokens ms) {d : Default}
    (hd : ms.default = some d) : ∃ token ∈ tokens, Gives type token d :=
  ((h.default d).1 hd).exists_gives

/-- Where one of the modifiers gives a default, there is one. -/
theorem Collected.exists_default (h : Collected type tokens ms) {token : String} {d : Default}
    (htoken : token ∈ tokens) (hd : Gives type token d) : ∃ d', ms.default = some d' := by
  rw [← Option.ne_none_iff_exists']
  intro hnone
  exact h.noDefault.1 hnone token htoken d hd

theorem exists_collected (h : ∀ token ∈ tokens, IsModifier type token) :
    ∃ ms, Collected type tokens ms := by
  obtain ⟨ms, hms⟩ := exists_foldlM_ok "" {} h
  exact ⟨ms, (collected_of_foldlM hms).2⟩

theorem Collected.isSome_default (h : Collected type tokens ms) :
    ms.default.isSome = true ↔ ∃ token ∈ tokens, ∃ d, Gives type token d := by
  rw [Option.isSome_iff_exists]
  constructor
  · rintro ⟨d, hd⟩
    obtain ⟨token, htoken, hgives⟩ := h.exists_gives hd
    exact ⟨token, htoken, d, hgives⟩
  · rintro ⟨token, htoken, d, hgives⟩
    exact h.exists_default htoken hgives

/-- The same modifiers in another order, each as often as may be, set the same flags; there is a
default if there was one. -/
theorem Collected.rearranged (h : Collected type tokens ms) (h' : Collected type tokens' ms')
    (hsame : ∀ token, token ∈ tokens' ↔ token ∈ tokens) :
    ms' = { ms with default := ms'.default } ∧ ms'.default.isSome = ms.default.isSome := by
  have hnullable : ms'.nullable = ms.nullable := by
    rw [Bool.eq_iff_iff, h'.nullable, h.nullable]
    simp only [hsame]
  have hunique : ms'.unique = ms.unique := by
    rw [Bool.eq_iff_iff, h'.unique, h.unique]
    simp only [hsame]
  have hindex : ms'.index = ms.index := by
    rw [Bool.eq_iff_iff, h'.index, h.index]
    simp only [hsame]
  have hdefault : ms'.default.isSome = ms.default.isSome := by
    rw [Bool.eq_iff_iff, h'.isSome_default, h.isSome_default]
    simp only [hsame]
  refine ⟨?_, hdefault⟩
  rw [← hnullable, ← hunique, ← hindex]

/-- Where no two modifiers give different defaults, their order does not matter at all. -/
theorem Collected.eq_of_agree (h : Collected type tokens ms) (h' : Collected type tokens' ms')
    (hsame : ∀ token, token ∈ tokens' ↔ token ∈ tokens) (hagree : AgreeOnDefault type tokens) :
    ms' = ms := by
  obtain ⟨hflags, hsome⟩ := h.rearranged h' hsame
  have hdefault : ms'.default = ms.default := by
    rcases hd : ms.default with _ | d
    · rw [hd] at hsome
      exact Option.not_isSome_iff_eq_none.1 (by simp [hsome])
    · rw [hd] at hsome
      obtain ⟨d', hd'⟩ := Option.isSome_iff_exists.1 hsome
      obtain ⟨token, htoken, hgives⟩ := h.exists_gives hd
      obtain ⟨token', htoken', hgives'⟩ := h'.exists_gives hd'
      rw [hd', hagree token' ((hsame token').1 htoken') token htoken d' d hgives' hgives]
  rw [hflags, hdefault]

end Modifiers

/-! ## Entries -/

namespace Field

/-- The parts of an entry between its colons, without blank ends. -/
def parts (entry : String) : List String := (split ':' entry).map trim

/-- The modifiers of an entry: its parts after the name and the type. -/
def modifierTokens (entry : String) : List String := (parts entry).drop 2

/-- An entry has the name and the type of another one and the same modifiers, but these may be in
another order, and each of them may occur more or less often. -/
structure Rearranges (entry entry' : String) : Prop where
  head : (parts entry').take 2 = (parts entry).take 2
  modifiers : ∀ token, token ∈ modifierTokens entry' ↔ token ∈ modifierTokens entry

instance (entry entry' : String) : Decidable (Rearranges entry entry') :=
  decidable_of_iff ((parts entry').take 2 = (parts entry).take 2 ∧
    (∀ token ∈ modifierTokens entry', token ∈ modifierTokens entry) ∧
    ∀ token ∈ modifierTokens entry, token ∈ modifierTokens entry')
    ⟨fun ⟨hhead, hleft, hright⟩ => ⟨hhead, fun token => ⟨hleft token, hright token⟩⟩,
      fun h => ⟨h.head, fun token => (h.modifiers token).1, fun token => (h.modifiers token).2⟩⟩

variable {entry entry' : String} {field : Field}

theorem spelled_of_parse (h : parse entry = .ok field) : Spelled (parts entry) field :=
  spelled_of_ofParts h

theorem collected_of_parse (h : parse entry = .ok field) :
    Modifiers.Collected field.type (modifierTokens entry) field.modifiers := by
  obtain ⟨token, tokens, hparts, -, -, -, hcollected⟩ := spelled_of_parse h
  rw [modifierTokens, hparts]
  exact hcollected

/-- A rearranged entry is accepted, with the same name and type and with what its modifiers say. -/
theorem parse_of_rearranges (h : parse entry = .ok field) (hr : Rearranges entry entry') :
    ∃ ms, parse entry' = .ok ⟨field.name, field.type, ms⟩ ∧
      Modifiers.Collected field.type (modifierTokens entry') ms := by
  obtain ⟨token, tokens, hparts, hname, htype, hall, -⟩ := spelled_of_parse h
  have hhead : (parts entry').take 2 = [field.name, token] := by
    rw [hr.head, hparts]
    rfl
  have hparts' : parts entry' = field.name :: token :: modifierTokens entry' := by
    rw [← List.take_append_drop 2 (parts entry'), hhead]
    rfl
  have hall' : ∀ modifier ∈ modifierTokens entry', Modifiers.IsModifier field.type modifier := by
    intro modifier hmodifier
    have hmem := (hr.modifiers modifier).1 hmodifier
    rw [modifierTokens, hparts] at hmem
    exact hall modifier hmem
  obtain ⟨ms, hms⟩ := Modifiers.exists_collected hall'
  exact ⟨ms, ofParts_of_spelled ⟨token, _, hparts', hname, htype, hall', hms⟩, hms⟩

/-! ### Giving a modifier once more -/

theorem trim_of_mem_parts {part : String} (h : part ∈ parts entry) : trim part = part := by
  obtain ⟨raw, -, rfl⟩ := List.mem_map.1 h
  exact trim_trim raw

theorem not_mem_of_mem_parts {part : String} (h : part ∈ parts entry) : ':' ∉ part.toList := by
  obtain ⟨raw, hraw, rfl⟩ := List.mem_map.1 h
  rw [toList_trim]
  exact fun hmem => not_mem_of_mem_split hraw (mem_of_mem_trimChars hmem)

theorem parts_append {part : String} (h : part ∈ parts entry) :
    parts (entry ++ ":" ++ part) = parts entry ++ [part] := by
  rw [parts, split_append (show ":".toList = [':'] from rfl),
    split_of_not_mem (not_mem_of_mem_parts h), List.map_append, ← parts, List.map_singleton,
    trim_of_mem_parts h]

theorem two_le_length_parts {token : String} (h : token ∈ modifierTokens entry) :
    2 ≤ (parts entry).length := by
  have hpos := List.length_pos_of_mem h
  rw [modifierTokens, List.length_drop] at hpos
  omega

theorem modifierTokens_append {token : String} (h : token ∈ modifierTokens entry) :
    modifierTokens (entry ++ ":" ++ token) = modifierTokens entry ++ [token] := by
  rw [modifierTokens, parts_append (List.mem_of_mem_drop h),
    List.drop_append_of_le_length (two_le_length_parts h), ← modifierTokens]

/-- An entry is rearranged by giving one of its modifiers once more at the end. -/
theorem rearranges_append {token : String} (h : token ∈ modifierTokens entry) :
    Rearranges entry (entry ++ ":" ++ token) := by
  constructor
  · rw [parts_append (List.mem_of_mem_drop h),
      List.take_append_of_le_length (two_le_length_parts h)]
  · intro other
    rw [modifierTokens_append h, List.mem_append, List.mem_singleton]
    exact ⟨fun hmem => hmem.elim id fun heq => heq ▸ h, .inl⟩

/-- The modifier that comes last gives the default. -/
theorem default_of_append {token : String} {d : Default} (htoken : token ∈ modifierTokens entry)
    (hd : Modifiers.Gives field.type token d)
    (h : parse (entry ++ ":" ++ token) = .ok field) : field.modifiers.default = some d := by
  have hcollected := collected_of_parse h
  rw [modifierTokens_append htoken] at hcollected
  exact (hcollected.default d).2 (Modifiers.givesLast_concat.2 (.inl hd))

/-- **Modifiers as a set.** Rearranging the modifiers of an accepted entry gives an accepted entry
for a field that is the same but for its default, and it has a default just in case the field had
one. All the rearranged entries are entries of the very same field exactly if no two of the
modifiers give different defaults. -/
theorem parse_rearranged (h : parse entry = .ok field) :
    (∀ entry', Rearranges entry entry' → ∃ default,
      parse entry' = .ok { field with modifiers := { field.modifiers with default := default } } ∧
      default.isSome = field.modifiers.default.isSome) ∧
    ((∀ entry', Rearranges entry entry' → parse entry' = .ok field) ↔
      Modifiers.AgreeOnDefault field.type (modifierTokens entry)) := by
  have hcollected := collected_of_parse h
  refine ⟨?_, ?_, ?_⟩
  · intro entry' hr
    obtain ⟨ms, hparse, hms⟩ := parse_of_rearranges h hr
    obtain ⟨hflags, hsome⟩ := hcollected.rearranged hms hr.modifiers
    refine ⟨ms.default, ?_, hsome⟩
    rw [← hflags]
    exact hparse
  · intro hall token htoken token' htoken' d d' hd hd'
    have hdefault := default_of_append htoken hd (hall _ (rearranges_append htoken))
    have hdefault' := default_of_append htoken' hd' (hall _ (rearranges_append htoken'))
    exact Option.some.inj (hdefault.symm.trans hdefault')
  · intro hagree entry' hr
    obtain ⟨ms, hparse, hms⟩ := parse_of_rearranges h hr
    rw [hparse, hcollected.eq_of_agree hms hr.modifiers hagree]

/-- A flag, and one default that is given twice, in two spellings: the order does not matter. -/
theorem parse_rearranged_repeated :
    parse "e:str: UNIQUE :default=a=b:Default = a=b" =
        .ok ⟨"e", .string, { unique := true, default := some (.text "a=b") }⟩ ∧
      Modifiers.AgreeOnDefault .string
        (modifierTokens "e:str: UNIQUE :default=a=b:Default = a=b") ∧
      Rearranges "e:str: UNIQUE :default=a=b:Default = a=b"
        "e:str:Default = a=b:UNIQUE:default=a=b:UNIQUE" ∧
      parse "e:str:Default = a=b:UNIQUE:default=a=b:UNIQUE" =
        .ok ⟨"e", .string, { unique := true, default := some (.text "a=b") }⟩ := by
  have hparse : parse "e:str: UNIQUE :default=a=b:Default = a=b" =
      .ok ⟨"e", .string, { unique := true, default := some (.text "a=b") }⟩ := by
    decide +kernel
  have hagree : Modifiers.AgreeOnDefault .string
      (modifierTokens "e:str: UNIQUE :default=a=b:Default = a=b") := by
    decide +kernel
  have hr : Rearranges "e:str: UNIQUE :default=a=b:Default = a=b"
      "e:str:Default = a=b:UNIQUE:default=a=b:UNIQUE" := by
    decide +kernel
  exact ⟨hparse, hagree, hr, (parse_rearranged hparse).2.2 hagree _ hr⟩

/-- Of two different defaults the last one counts, so that swapping them gives another field. -/
theorem parse_swapped_defaults :
    parse "n:int:default=1:default=2" = .ok ⟨"n", .integer, { default := some (.number "2") }⟩ ∧
      Rearranges "n:int:default=1:default=2" "n:int:default=2:default=1" ∧
      parse "n:int:default=2:default=1" =
        .ok ⟨"n", .integer, { default := some (.number "1") }⟩ := by
  decide +kernel

end Field

end Groundwork
