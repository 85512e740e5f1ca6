import Groundwork.Proofs.Field.Rearrangement
import Groundwork.Proofs.Literal.Number

/-!
# Defaults of numeric columns

A default that is spelled out in an entry for a column of whole, floating-point or fixed-point
numbers is checked and then kept as typed. The check is exact at the limits, for any number of
digits and any exponent (`Field.parse_insert_default`): a whole number must lie in a signed
sixty-four bit word, and the magnitude of any other number below half a step past the greatest
double. What has been accepted stands in the generated code as it was typed. It is a number literal
there that denotes just the number that is spelled, unless it is a whole number that is padded with
zeros (`Field.parse_number_default`).
-/

namespace Groundwork

open Text Numeral

/-! ## The token of a default -/

namespace Modifiers

theorem assigns_default (v : String) : Assigns (trim ("default=" ++ v)) "default" (trim v) := by
  have hstart : ("default=" ++ v).toList.dropWhile isBlank =
      "default".toList ++ '=' :: v.toList := by
    rw [String.toList_append]
    rfl
  refine ⟨"default".toList, trimEndChars v.toList, ?_, by decide, by decide, ?_⟩
  · rw [toList_trim, trimChars, hstart, trimEndChars_append_cons (by decide)]
  · rw [trimChars_trimEndChars, ← trim]

variable {type : FieldType} {token word literal : String}

/-- A token that assigns a default is a modifier if the literal spells a default of the type. -/
theorem isModifier_iff_spelled (h : Assigns token word literal) (hw : Respells "default" word) :
    IsModifier type token ↔ ∃ d, Default.Spelled type literal d := by
  have hflag (keyword : Keyword) : ¬ Names words token keyword := fun hk =>
    not_mem_of_names hk h.mem
  rw [isModifier_iff]
  simp only [hflag, and_false, exists_false, false_or, gives_of_assigns h, names_default, hw,
    true_and]

end Modifiers

namespace Field

variable {before after : List String} {field : Field} {v : String}

/-! ## Limits -/

/-- The parts of an entry that is put together from parts. -/
theorem parts_intercalate {raw : List String} (hraw : ∀ part ∈ raw, ':' ∉ part.toList)
    (hne : raw ≠ []) :
    parts (String.intercalate ":" raw) = raw.map trim := by
  rw [parts, split_intercalate rfl hne hraw]

/-- The parts of an entry that a default is put into are those that it had and the default. -/
theorem parts_insert (hparts : ∀ part ∈ before ++ after, ':' ∉ part.toList)
    (hv : ':' ∉ v.toList) :
    parts (String.intercalate ":" (before ++ ("default=" ++ v) :: after)) =
      before.map trim ++ trim ("default=" ++ v) :: after.map trim := by
  rw [List.forall_mem_append] at hparts
  have hcolon : ∀ part ∈ before ++ ("default=" ++ v) :: after, ':' ∉ part.toList :=
    List.forall_mem_append.2 ⟨hparts.1, List.forall_mem_cons.2 ⟨by simpa using hv, hparts.2⟩⟩
  rw [parts_intercalate hcolon (by simp), List.map_append, List.map_cons]

/-- An entry with a default put in somewhere among the modifiers is accepted if the literal spells a
default of the type, and is refused for it if not. -/
theorem parse_insert_cases (hlength : 2 ≤ before.length)
    (hparts : ∀ part ∈ before ++ after, ':' ∉ part.toList) (hv : ':' ∉ v.toList)
    (hfield : parse (String.intercalate ":" (before ++ after)) = .ok field) :
    (∃ d, Default.Spelled field.type (trim v) d) ∧
      (∃ field', parse (String.intercalate ":" (before ++ ("default=" ++ v) :: after)) =
        .ok field') ∨
    (¬ ∃ d, Default.Spelled field.type (trim v) d) ∧
      parse (String.intercalate ":" (before ++ ("default=" ++ v) :: after)) =
        .error (.invalidDefault field.name field.type (trim v)) := by
  obtain ⟨a, b, front, rfl⟩ : ∃ a b front, before = a :: b :: front := by
    match before, hlength with
    | a :: b :: front, _ => exact ⟨a, b, front, rfl⟩
  obtain ⟨token, tokens, hspelled, hname, htype, hall, -⟩ := spelled_of_parse hfield
  rw [parts_intercalate hparts (List.cons_ne_nil _ _)] at hspelled
  obtain ⟨ha, hb, rfl⟩ : trim a = field.name ∧ trim b = token ∧
      front.map trim ++ after.map trim = tokens := by
    simpa using hspelled
  have hbad := Modifiers.assigns_default v
  have hword : Respells "default" "default" := by decide
  -- the entry has the same name and type, and one more token
  have hinserted :
      parts (String.intercalate ":" ((a :: b :: front) ++ ("default=" ++ v) :: after)) =
        field.name :: token ::
          (front.map trim ++ trim ("default=" ++ v) :: after.map trim) := by
    rw [parts_insert hparts hv, List.map_cons, List.map_cons, ha, hb]
    rfl
  rw [parse, ← parts, hinserted, ofParts_of_names _ hname htype]
  rw [List.forall_mem_append] at hall
  by_cases hd : ∃ d, Default.Spelled field.type (trim v) d
  · refine .inl ⟨hd, ?_⟩
    obtain ⟨ms, hms⟩ := Modifiers.exists_foldlM_ok field.name {}
      (List.forall_mem_append.2 ⟨hall.1, List.forall_mem_cons.2
        ⟨(Modifiers.isModifier_iff_spelled hbad hword).2 hd, hall.2⟩⟩)
    rw [hms]
    exact ⟨_, rfl⟩
  · refine .inr ⟨hd, ?_⟩
    exact bind_eq_error.2 (.inl (Modifiers.foldlM_error_iff.2 ⟨_, _, _, rfl, hall.1,
      .invalidDefault hbad hword (not_exists.1 hd)⟩))

/-- **Limits of numeric defaults.** In an entry for a column of whole numbers a default is accepted
just in case it is, without blanks at its ends, a sign or none and digits, for a number from
`-2 ^ 63` to `2 ^ 63 - 1`. In an entry for a column of floating-point or fixed-point numbers, it is
accepted just in case it is a sign or none, digits with a point or without, and an exponent or none,
for a number whose magnitude lies below `2 ^ 1024 - 2 ^ 970`. If the default is not accepted, the
entry is refused for it. -/
theorem parse_insert_default (hlength : 2 ≤ before.length)
    (hparts : ∀ part ∈ before ++ after, ':' ∉ part.toList) (hv : ':' ∉ v.toList)
    (hfield : parse (String.intercalate ":" (before ++ after)) = .ok field) :
    (field.type = .integer →
      ((∃ field', parse (String.intercalate ":" (before ++ ("default=" ++ v) :: after)) =
          .ok field') ↔
        ∃ n, SpellsWhole (trim v).toList n ∧ -2 ^ 63 ≤ n ∧ n ≤ 2 ^ 63 - 1)) ∧
    (field.type = .float ∨ field.type = .decimal →
      ((∃ field', parse (String.intercalate ":" (before ++ ("default=" ++ v) :: after)) =
          .ok field') ↔
        ∃ q, SpellsRational (trim v).toList q ∧ |q| < 2 ^ 1024 - 2 ^ 970)) ∧
    ∀ cause, parse (String.intercalate ":" (before ++ ("default=" ++ v) :: after)) =
      .error cause → cause = .invalidDefault field.name field.type (trim v) := by
  have hcases := parse_insert_cases hlength hparts hv hfield
  generalize parse (String.intercalate ":" (before ++ ("default=" ++ v) :: after)) = result
    at hcases
  have hiff : (∃ field', result = .ok field') ↔ ∃ d, Default.Spelled field.type (trim v) d := by
    obtain ⟨hd, hok⟩ | ⟨hd, rfl⟩ := hcases
    · exact iff_of_true hok hd
    · exact iff_of_false nofun hd
  refine ⟨fun htype => ?_, fun htype => ?_, fun cause hcause => ?_⟩
  · rw [hiff, htype]
    simp only [Default.Spelled, exists_eq_right]
    refine exists_congr fun n => and_congr_right fun _ => and_congr_right fun _ => ?_
    rw [Int.le_sub_one_iff]
  · rw [hiff, exists_spellsRational_iff]
    obtain htype | htype := htype <;> rw [htype] <;> simp only [Default.Spelled, exists_eq_right]
  · obtain ⟨-, field', rfl⟩ | ⟨-, rfl⟩ := hcases
    · cases hcause
    · exact (Except.error.inj hcause).symm

/-- The greatest default of a column of whole numbers, and the next number. -/
theorem parse_insert_default_greatest :
    (∃ field', parse "n:int:default=9223372036854775807:index" = .ok field') ∧
      parse "n:int:default=9223372036854775808:index" =
        .error (.invalidDefault "n" .integer "9223372036854775808") := by
  have hfield : parse (String.intercalate ":" (["n", "int"] ++ ["index"])) =
      .ok ⟨"n", .integer, { index := true }⟩ := by decide +kernel
  have hgreatest := parse_insert_default (v := "9223372036854775807") (by decide) (by decide)
    (by decide) hfield
  have hnext := parse_insert_default (v := "9223372036854775808") (by decide) (by decide)
    (by decide) hfield
  refine ⟨(hgreatest.1 rfl).2 ⟨9223372036854775807, integer?_iff.1 (by decide +kernel), by decide,
    by decide⟩, ?_⟩
  rcases hresult : parse "n:int:default=9223372036854775808:index" with cause | field'
  · rw [hnext.2.2 cause hresult]
    decide +kernel
  · obtain ⟨n, hn, -, hle⟩ := (hnext.1 rfl).1 ⟨field', hresult⟩
    have hvalue : integer? (trim "9223372036854775808").toList = some 9223372036854775808 := by
      decide +kernel
    obtain rfl := Option.some.inj (hvalue.symm.trans (integer?_iff.2 hn))
    exact absurd hle (by decide)

/-! ## Literals -/

/-- The default that counts in an entry for a column of a type is spelled out: one of the modifiers
assigns `literal`, and none of those after it gives a default. -/
def LastLiteral (entry : String) (type : FieldType) (literal : String) : Prop :=
  ∃ earlier token later word, modifierTokens entry = earlier ++ token :: later ∧
    Modifiers.Assigns token word literal ∧ Respells "default" word ∧
    ∀ other ∈ later, ∀ d, ¬ Modifiers.Gives type other d

/-- A text spells the exact number `q` in a column of a numeric type. -/
def SpellsNumber (type : FieldType) (cs : List Char) (q : ℚ) : Prop :=
  match type with
  | .integer => ∃ n : ℤ, SpellsWhole cs n ∧ q = n
  | _ => SpellsRational cs q

variable {entry literal : String} {type : FieldType}

/-- What is accepted for a numeric column is a number, and its exact value is that of a decimal
number. -/
theorem number_of_spelled {d : Default}
    (htype : type = .integer ∨ type = .float ∨ type = .decimal)
    (h : Default.Spelled type literal d) :
    d = .number literal ∧
      ∃ q, SpellsNumber type literal.toList q ∧ SpellsRational literal.toList q := by
  obtain rfl | htype := htype
  · obtain ⟨⟨n, hn, -⟩, hd⟩ := h
    exact ⟨hd, n, ⟨n, hn, rfl⟩, hn.spellsRational⟩
  · obtain rfl | rfl := htype
    all_goals
      obtain ⟨hx, hd⟩ := h
      obtain ⟨q, hq, -⟩ := (exists_spellsRational_iff _).2 hx
      exact ⟨hd, q, hq, hq⟩

/-- **Numeric defaults as literals.** The default in an accepted entry for a numeric column stands
in the generated code as it was typed. There it denotes just the number that is spelled, unless it
is padded; then it is no number literal at all. -/
theorem parse_number_default (hfield : parse entry = .ok field)
    (htype : field.type = .integer ∨ field.type = .float ∨ field.type = .decimal)
    (hliteral : LastLiteral entry field.type literal) :
    field.defaultExpression = some literal ∧
      ∃ q, SpellsNumber field.type literal.toList q ∧
        ∀ q', Literal.Denotes literal.toList q' ↔
          q' = q ∧ ¬ Literal.IsPadded literal.toList := by
  obtain ⟨earlier, token, later, word, htokens, hassigns, hword, hlast⟩ := hliteral
  obtain ⟨_, tokens, hparts, -, -, hall, hcollected⟩ := spelled_of_parse hfield
  obtain rfl : modifierTokens entry = tokens := by
    rw [modifierTokens, hparts]
    rfl
  have hmem : token ∈ modifierTokens entry := by simp [htokens]
  obtain ⟨d, hd⟩ := (Modifiers.isModifier_iff_spelled hassigns hword).1 (hall token hmem)
  obtain ⟨rfl, q, hq, hrational⟩ := number_of_spelled htype hd
  have hgives : Modifiers.Gives field.type token (.number literal) :=
    (Modifiers.gives_of_assigns hassigns).2 ⟨Modifiers.names_default.2 hword, hd⟩
  have hdefault : field.modifiers.default = some (.number literal) :=
    (hcollected.default _).2 ⟨earlier, token, later, htokens, hgives, hlast⟩
  refine ⟨?_, q, hq, fun q' => Literal.denotes_iff hrational⟩
  rw [defaultExpression, hdefault]
  rfl

/-- Zeros in front do no harm where a point or an exponent comes later. -/
theorem parse_number_default_point :
    LastLiteral "x:float:index:default= -01.5e+1 " .float "-01.5e+1" ∧
      parse "x:float:index:default= -01.5e+1 " =
        .ok ⟨"x", .float, { index := true, default := some (.number "-01.5e+1") }⟩ ∧
      defaultExpression ⟨"x", .float, { index := true, default := some (.number "-01.5e+1") }⟩ =
        some "-01.5e+1" ∧
      Literal.Denotes "-01.5e+1".toList (-15) := by
  have hliteral : LastLiteral "x:float:index:default= -01.5e+1 " .float "-01.5e+1" :=
    ⟨["index"], "default= -01.5e+1", [], "default", by decide +kernel,
      ⟨"default".toList, " -01.5e+1".toList, by decide, by decide, by decide, by decide⟩,
      by decide, nofun⟩
  have hparse : parse "x:float:index:default= -01.5e+1 " =
      .ok ⟨"x", .float, { index := true, default := some (.number "-01.5e+1") }⟩ := by
    decide +kernel
  have hvalue : SpellsRational "-01.5e+1".toList (-15) := by
    have hexponent : SpellsExponent "e+1".toList 1 :=
      .inr ⟨'e', "+1".toList, by decide, .inl rfl, ['+'], ['1'], by decide, .inr (.inl rfl),
        by decide, List.all_eq_true.1 (by decide), by decide⟩
    refine ⟨['-'], "01.5e+1".toList, ⟨['0', '1', '5'], 0⟩, by decide, .inr (.inr rfl),
      ⟨['0', '1'], ['.'], ['5'], "e+1".toList, 1, by decide, by decide,
        List.all_eq_true.1 (by decide), .inl rfl, hexponent, by decide⟩, ?_⟩
    have hdigits : digitsValue ['0', '1', '5'] = 15 := by decide
    rw [if_pos rfl, Decimal.value_digits, hdigits]
    norm_num
  have hpadded : ¬ Literal.IsPadded "-01.5e+1".toList := fun h => h.point_not_mem (by decide)
  obtain ⟨hexpression, q, hq, hdenotes⟩ := parse_number_default hparse (.inr (.inl rfl)) hliteral
  exact ⟨hliteral, hparse, hexpression, (hdenotes _).2 ⟨hvalue.unique hq, hpadded⟩⟩

/-- A whole number that is padded with zeros is accepted, and what then stands in the generated code
is no number literal. -/
theorem parse_padded_default :
    parse "n:int:default=007" = .ok ⟨"n", .integer, { default := some (.number "007") }⟩ ∧
      defaultExpression ⟨"n", .integer, { default := some (.number "007") }⟩ = some "007" ∧
      ∀ q, ¬ Literal.Denotes "007".toList q := by
  refine ⟨by decide +kernel, by decide, fun q => Literal.IsPadded.not_denotes ?_⟩
  exact ⟨[], ['0', '7'], rfl, .inl rfl, List.all_eq_true.1 (by decide), '7', by decide, by decide⟩

end Field

end Groundwork
