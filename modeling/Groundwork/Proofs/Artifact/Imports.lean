import Groundwork.Proofs.Artifact.Confinement
import Groundwork.Proofs.Code

/-!
# Imports of generated models

A model imports exactly what it uses. Two ways lead to a name in a column: its type and its default
are printed as expressions, and the same type and default decide what is imported. They agree
because an accepted default prints a name of the date module only if it is the natural one of a
column of times or the present moment (`Default.expression_cases`). So every name that the lines of
declarations use is a built-in one or one that is provided (`Request.provided_of_uses`), every
provided name is used by one of them (`Request.uses_of_provided`), and the provided names are those
that the imports of the printed model list (`Request.provided_iff`).
-/

namespace Groundwork

open Text Code

/-- The names that generated code uses without importing them. -/
def Code.builtins : List (List Char) := ["True".toList, "False".toList, "dict".toList]

/-! ## Columns -/

namespace FieldType

variable (type : FieldType)

theorem names_columnType :
    names type.columnType.toList = [type.importName.toList] ∧ Closed type.columnType.toList := by
  cases type <;> exact ⟨by decide, by decide⟩

/-- The name to import for a type is the head of its expression. -/
theorem head_columnType :
    type.columnType.toList.takeWhile (· != '(') = type.importName.toList := by
  cases type <;> decide

/-- Whether the values of a type are moments. -/
def IsMoment (type : FieldType) : Prop := type = .dateTime ∨ type = .date

end FieldType

/-! ## Defaults -/

namespace Default

variable {type : FieldType} {d : Default}

/-- Whether a default is the natural one or the present moment. -/
def IsNow (d : Default) : Prop := d = .implicit ∨ d = .now

/-- An accepted default prints the present moment, or it uses no names but built-in ones. -/
theorem expression_cases (h : d.Fits type) :
    (type.IsMoment ∧ d.IsNow) ∧ d.expression type = type.nowExpression ∨
      ¬(type.IsMoment ∧ d.IsNow) ∧ names (d.expression type).toList ⊆ builtins := by
  obtain rfl | ⟨literal, hl⟩ := h
  · cases type
    case dateTime => exact .inl ⟨⟨.inl rfl, .inl rfl⟩, rfl⟩
    case date => exact .inl ⟨⟨.inr rfl, .inl rfl⟩, rfl⟩
    all_goals
      refine .inr ⟨?_, by decide⟩
      simp [FieldType.IsMoment]
  · obtain rfl | ⟨n, hn, hs, rfl⟩ | ⟨b, rfl⟩ | ⟨rfl, ht⟩ := ofLiteral?_eq_some hl
    · refine .inr ⟨by simp [IsNow], ?_⟩
      rw [expression, Literal.quote, String.toList_ofList, (quiet_quoteChars _).names_eq_nil rfl]
      exact List.nil_subset _
    · refine .inr ⟨by simp [IsNow], ?_⟩
      rw [expression, ← hs, (names_spelling hn).1]
      exact List.nil_subset _
    · refine .inr ⟨by simp [IsNow], ?_⟩
      cases b
      · exact (by decide : names "False".toList ⊆ builtins)
      · exact (by decide : names "True".toList ⊆ builtins)
    · exact .inl ⟨⟨ht, .inr rfl⟩, rfl⟩

theorem closed_expression (h : d.Fits type) : Closed (d.expression type).toList := by
  obtain rfl | ⟨literal, hl⟩ := h
  · cases type <;> decide
  · obtain rfl | ⟨n, hn, hs, rfl⟩ | ⟨b, rfl⟩ | ⟨rfl, ht⟩ := ofLiteral?_eq_some hl
    · rw [expression, Literal.quote, String.toList_ofList]
      exact (quiet_quoteChars _).closed rfl
    · rw [expression, ← hs]
      exact (names_spelling hn).2
    · cases b
      · exact (by decide : Closed "False".toList)
      · exact (by decide : Closed "True".toList)
    · cases type <;> decide

/-- A default prints the present moment of a type in columns of that type, and nowhere else. -/
theorem expression_eq_now (h : d.Fits type) {moment : FieldType} (hm : moment.IsMoment) :
    d.expression type = moment.nowExpression ↔ type = moment ∧ d.IsNow := by
  obtain ⟨⟨ht, hd⟩, he⟩ | ⟨hn, hnames⟩ := expression_cases h
  · rw [he]
    obtain rfl | rfl := ht <;> obtain rfl | rfl := hm <;> simp [hd, FieldType.nowExpression]
  · have hne : ¬names moment.nowExpression.toList ⊆ builtins := by
      obtain rfl | rfl := hm <;> decide
    constructor
    · intro he
      exact absurd (he ▸ hnames) hne
    · rintro ⟨rfl, hd⟩
      exact absurd ⟨hm, hd⟩ hn

end Default

/-! ## Lines -/

theorem Text.not_mem_of_member {name : String} (h : isMemberName name = true) {c : Char}
    (hc : isClear c = false) : c ∉ name.toList := fun hm =>
  ne_of_clear (clear_of_identifierTail (isIdentifierTail_of_member h) hm) hc rfl

/-- The line of a member uses the names behind its equals sign. -/
theorem uses_of_member {name : String} (h : isMemberName name = true) {mark : List Char}
    (hm : '=' ∉ mark) (ds : List Char) :
    uses (("    ".toList ++ name.toList ++ mark) ++ '=' :: ds) = names ds := by
  have hname := not_mem_of_member h (c := '=') (by decide)
  exact uses_assignment (by simp [hname, hm]) ds

namespace Field

/-- The arguments of a column after its type. -/
def arguments (field : Field) : List String :=
  [" nullable=" ++ (if field.modifiers.nullable then "True" else "False")]
    ++ (if field.modifiers.unique then [" unique=True"] else [])
    ++ (if field.modifiers.index then [" index=True"] else [])
    ++ (field.defaultExpression.map (" default=" ++ ·)).toList

theorem toList_columnLine (field : Field) :
    field.columnLine.toList = ("    ".toList ++ field.name.toList ++ " ".toList) ++
      '=' :: (" Column".toList ++ '(' :: (field.type.columnType.toList ++
        ((field.arguments.map String.toList).flatMap (',' :: ·) ++ [')']))) := by
  simp only [columnLine, arguments, String.join_cons, String.join_nil, String.toList_append]
  cases field.modifiers.nullable <;> cases field.modifiers.unique <;>
    cases field.modifiers.index <;> cases field.defaultExpression <;> simp

variable {field : Field}

/-- Whether the column of a field takes a moment of its type as its default. -/
def TakesNow (field : Field) : Prop :=
  field.type.IsMoment ∧ ∃ d ∈ field.modifiers.default, d.IsNow

theorem defaultExpression_eq_now (h : field.Accepted) {moment : FieldType}
    (hm : moment.IsMoment) :
    field.defaultExpression = some moment.nowExpression ↔ field.type = moment ∧ field.TakesNow := by
  rw [defaultExpression, Option.map_eq_some_iff]
  constructor
  · rintro ⟨d, hd, he⟩
    obtain ⟨rfl, hn⟩ := (Default.expression_eq_now (h.default d hd) hm).1 he
    exact ⟨rfl, hm, d, hd, hn⟩
  · rintro ⟨rfl, -, d, hd, hn⟩
    exact ⟨d, hd, (Default.expression_eq_now (h.default d hd) hm).2 ⟨rfl, hn⟩⟩

/-- The default of a column is read as its expression, the keyword before it being none of its
names. -/
theorem names_default (e : List Char) :
    names (" default=".toList ++ e) = names e ∧ finish (" default=".toList ++ e) = finish e :=
  Quiet.names_append ⟨by decide, by decide⟩

theorem argument_cases (h : field.Accepted) {argument : String}
    (ha : argument ∈ field.arguments) :
    Closed argument.toList ∧ (names argument.toList ⊆ builtins ∨
      field.TakesNow ∧ names argument.toList = names field.type.nowExpression.toList) := by
  have hfixed : ∀ s ∈ [" nullable=True", " nullable=False", " unique=True", " index=True"],
      Closed s.toList ∧ names s.toList ⊆ builtins := by decide
  suffices argument ∈ [" nullable=True", " nullable=False", " unique=True", " index=True"] ∨
      ∃ d ∈ field.modifiers.default, argument = " default=" ++ d.expression field.type by
    obtain hs | ⟨d, hd, rfl⟩ := this
    · exact (hfixed argument hs).imp_right .inl
    · have hfits := h.default d hd
      rw [String.toList_append, Closed, (names_default _).1, (names_default _).2]
      refine ⟨Default.closed_expression hfits, ?_⟩
      obtain ⟨⟨hm, hn⟩, he⟩ | ⟨-, hb⟩ := Default.expression_cases hfits
      · exact .inr ⟨⟨hm, d, hd, hn⟩, by rw [he]⟩
      · exact .inl hb
  simp only [arguments, List.mem_append, List.mem_singleton, List.mem_ite_nil_right,
    Option.mem_toList, Option.map_eq_some_iff, defaultExpression] at ha
  obtain ((rfl | ⟨-, rfl⟩) | ⟨-, rfl⟩) | ⟨e, ⟨d, hd, rfl⟩, rfl⟩ := ha
  · cases field.modifiers.nullable
    · exact .inl (by decide)
    · exact .inl (by decide)
  · exact .inl (by decide)
  · exact .inl (by decide)
  · exact .inr ⟨d, hd, rfl⟩

theorem uses_columnLine (h : field.Accepted) :
    uses field.columnLine.toList =
      "Column".toList :: field.type.importName.toList ::
        (field.arguments.map String.toList).flatMap names := by
  have hcolumn : names " Column".toList = ["Column".toList] ∧ Closed " Column".toList :=
    ⟨by decide, by decide⟩
  have hclosed : ∀ argument ∈ field.arguments.map String.toList, Closed argument :=
    List.forall_mem_map.2 fun _ ha => (argument_cases h ha).1
  obtain ⟨hnames, htype⟩ := field.type.names_columnType
  rw [toList_columnLine, uses_of_member h.name (by decide), names_append_cons (by decide) hcolumn.2,
    names_arguments htype hclosed, hcolumn.1, hnames]
  rfl

/-- The names that the line of a column uses. -/
theorem mem_uses_columnLine (h : field.Accepted) {n : List Char}
    (hn : n ∈ uses field.columnLine.toList) :
    n ∈ builtins ∨ n = "Column".toList ∨ n = field.type.importName.toList ∨
      field.TakesNow ∧ n ∈ names field.type.nowExpression.toList := by
  rw [uses_columnLine h, List.mem_cons, List.mem_cons, List.mem_flatMap] at hn
  obtain rfl | rfl | ⟨_, ha, hn⟩ := hn
  · exact .inr (.inl rfl)
  · exact .inr (.inr (.inl rfl))
  · obtain ⟨argument, hargument, rfl⟩ := List.mem_map.1 ha
    obtain hb | ⟨ht, he⟩ := (argument_cases h hargument).2
    · exact .inl (hb hn)
    · exact .inr (.inr (.inr ⟨ht, he ▸ hn⟩))

theorem uses_columnLine_now (h : field.Accepted) (ht : field.TakesNow) :
    names field.type.nowExpression.toList ⊆ uses field.columnLine.toList := by
  intro n hn
  have he := (defaultExpression_eq_now h ht.1).2 ⟨rfl, ht⟩
  have ha : " default=" ++ field.type.nowExpression ∈ field.arguments := by
    simp [arguments, he]
  rw [uses_columnLine h]
  refine List.mem_cons_of_mem _ (List.mem_cons_of_mem _ (List.mem_flatMap.2
    ⟨_, List.mem_map_of_mem ha, ?_⟩))
  rwa [String.toList_append, (names_default _).1]

end Field

/-! ### Relationships -/

/-- A text that can stand between quotes as it is is its own spelling. -/
theorem Text.Quotable.quoteChars_eq {s : String} (h : Quotable s) :
    Literal.quoteChars s.toList = '\'' :: (s.toList ++ ['\'']) := by
  have hspell {c : Char} (hc : c ∈ s.toList) : Literal.spell c = [c] := by
    obtain ⟨hq, hb, hcontrol⟩ := h c hc
    unfold Literal.spell
    split
    case h_6 => simp [hcontrol]
    all_goals first | exact absurd rfl hq | exact absurd rfl hb | exact absurd hcontrol (by decide)
  rw [Literal.quoteChars, List.flatMap_congr fun c hc => hspell hc, List.flatMap_singleton']

/-- A text between quotes uses no names. -/
theorem Text.Quotable.names_quoted {s : String} (h : Quotable s) (cs : List Char) :
    names ('\'' :: (s.toList ++ '\'' :: cs)) = names cs ∧
      finish ('\'' :: (s.toList ++ '\'' :: cs)) = finish cs := by
  have he : '\'' :: (s.toList ++ '\'' :: cs) = Literal.quoteChars s.toList ++ cs := by
    simp [h.quoteChars_eq]
  rw [he]
  exact (quiet_quoteChars _).names_append

namespace Relationship

variable {r : Relationship}

theorem uses_foreignKeyLine (h : r.Accepted) :
    uses r.foreignKeyLine.toList = ["Column".toList, "Integer".toList, "ForeignKey".toList] := by
  have htable : Quotable (r.targetTable ++ ".id") := by
    intro c hc
    rw [String.toList_append, List.mem_append] at hc
    rcases hc with hc | hc
    · exact (Inflection.namesTable_tableName _).quotable c hc
    · exact (by decide : Quotable ".id") c hc
  have hline : r.foreignKeyLine.toList =
      ("    ".toList ++ r.name.toList ++ "_id ".toList) ++ '=' :: (" Column".toList ++ '(' ::
        ("Integer".toList ++ ',' :: (" ForeignKey".toList ++ '(' ::
          ('\'' :: ((r.targetTable ++ ".id").toList ++ '\'' :: "))".toList))))) := by
    simp [foreignKeyLine, foreignKey]
  rw [hline, uses_of_member h.name (by decide), names_append_cons (by decide) (by decide),
    names_append_cons (by decide) (by decide),
    names_append_cons (by decide) (by decide),
    (htable.names_quoted _).1]
  decide

theorem uses_attributeLine (h : r.Accepted) :
    uses r.attributeLine.toList =
      "relationship".toList :: if r.cardinality = .one then ["False".toList] else [] := by
  have htarget : Quotable r.target := quotable_of_clear fun _ hc => clear_of_mem_target h hc
  have hline : r.attributeLine.toList =
      ("    ".toList ++ r.name.toList ++ " ".toList) ++ '=' :: (" relationship".toList ++ '(' ::
        ('\'' :: (r.target.toList ++ '\'' ::
          ((if r.cardinality = .one then ", uselist=False" else ", lazy='select'").toList ++
            [')'])))) := by
    simp [attributeLine]
  rw [hline, uses_of_member h.name (by decide), names_append_cons (by decide) (by decide),
    (htarget.names_quoted _).1]
  split <;> decide

end Relationship

/-! ## Requests -/

namespace Request

variable {request : Request}

/-- The lines of a model that declare columns and relationships. -/
def declarations (request : Request) : List String :=
  "    id = Column(Integer, primary_key=True)" :: request.fields.map Field.columnLine
    ++ (request.relationships.filter (·.cardinality == .one)).map Relationship.foreignKeyLine
    ++ (if request.timestamps then timestampLines else [])
    ++ request.relationships.map Relationship.attributeLine

/-- The kinds of declarations. -/
theorem mem_declarations {line : String} :
    line ∈ request.declarations ↔
      line = "    id = Column(Integer, primary_key=True)" ∨
      (∃ field ∈ request.fields, line = field.columnLine) ∨
      (∃ r ∈ request.relationships, r.cardinality = .one ∧ line = r.foreignKeyLine) ∨
      request.timestamps = true ∧ line ∈ timestampLines ∨
      ∃ r ∈ request.relationships, line = r.attributeLine := by
  simp only [declarations, List.mem_append, List.mem_cons, List.mem_map, List.mem_filter,
    beq_iff_eq, List.mem_ite_nil_right, or_assoc, and_assoc, @eq_comm _ line]

theorem declarations_subset : request.declarations ⊆ request.modelLines := by
  intro line hl
  rw [mem_modelLines]
  obtain rfl | ⟨field, hf, rfl⟩ | ⟨r, hr, hone, rfl⟩ | ⟨ht, hl⟩ | ⟨r, hr, rfl⟩ :=
    mem_declarations.1 hl
  · exact .inr (.inr (.inr (.inl (by simp [headLines]))))
  · exact .inr (.inr (.inr (.inr (.inl ⟨field, hf, rfl⟩))))
  · exact .inr (.inr (.inr (.inr (.inr (.inl ⟨r, hr, hone, rfl⟩)))))
  · exact .inr (.inr (.inr (.inr (.inr (.inr (.inl ⟨ht, hl⟩))))))
  · exact .inr (.inr (.inr (.inr (.inr (.inr (.inr
      (.inl ⟨List.ne_nil_of_mem hr, .inr ⟨r, hr, rfl⟩⟩)))))))

/-! ### What is imported -/

theorem mem_imports {n : String} :
    n ∈ request.imports ↔ n = "Column" ∨ n = "Integer" ∨
      (∃ field ∈ request.fields,
        n.toList = field.type.columnType.toList.takeWhile (· != '(')) ∨
      (n = "DateTime" ∧ request.timestamps = true) ∨
      (n = "ForeignKey" ∧ ∃ r ∈ request.relationships, r.cardinality = .one) := by
  have himportable : ∀ n ∈ request.needed, n ∈ importable := by
    have htypes (type : FieldType) : type.importName ∈ importable := by cases type <;> decide
    simp only [needed, List.forall_mem_append, List.forall_mem_map, htypes]
    refine ⟨⟨⟨by decide, fun _ _ => trivial⟩, ?_⟩, ?_⟩
    all_goals split <;> decide
  have hneeded : n ∈ request.imports ↔ n ∈ request.needed := by
    rw [imports, List.mem_filter, List.contains_iff_mem]
    exact ⟨And.right, fun hn => ⟨himportable n hn, hn⟩⟩
  simp only [hneeded, needed, FieldType.head_columnType, String.toList_inj, List.mem_append,
    List.mem_cons, List.mem_map, List.mem_ite_nil_right, List.not_mem_nil, or_false,
    List.any_eq_true, beq_iff_eq, or_assoc, @eq_comm _ _ n, @and_comm _ (n = _)]

theorem defaultsToNow_iff {moment : FieldType} (hm : moment.IsMoment) :
    request.defaultsToNow moment = true ↔
      ∃ field ∈ request.fields, field.type = moment ∧ field.TakesNow := by
  simp only [defaultsToNow, List.any_eq_true, Bool.and_eq_true, Bool.or_eq_true, beq_iff_eq]
  refine exists_congr fun field => and_congr_right fun _ => and_congr_right fun ht => ?_
  constructor
  · rintro (hd | hd)
    · exact ⟨ht ▸ hm, _, hd, .inl rfl⟩
    · exact ⟨ht ▸ hm, _, hd, .inr rfl⟩
  · rintro ⟨-, d, hd, rfl | rfl⟩
    · exact .inl hd
    · exact .inr hd

theorem needsDateTime_iff :
    request.needsDateTime = true ↔ request.timestamps = true ∨
      ∃ field ∈ request.fields, field.type = .dateTime ∧ field.TakesNow := by
  rw [needsDateTime, Bool.or_eq_true, defaultsToNow_iff (.inl rfl)]

theorem needsDate_iff :
    request.needsDate = true ↔ ∃ field ∈ request.fields, field.type = .date ∧ field.TakesNow := by
  rw [needsDate, defaultsToNow_iff (.inr rfl)]

/-- Whether a name is one that the imports of a model provide. -/
def Provided (request : Request) (n : List Char) : Prop :=
  n ∈ request.imports.map String.toList ∨
    (n = "relationship".toList ∧ request.relationships ≠ []) ∨
    (n = "datetime".toList ∧ request.needsDateTime = true) ∨
    (n = "date".toList ∧ request.needsDate = true)

/-! ### What is used -/

section Uses

variable {n : List Char} {line : String}

theorem names_now :
    names FieldType.dateTime.nowExpression.toList = ["datetime".toList] ∧
      names FieldType.date.nowExpression.toList = ["date".toList] :=
  ⟨by decide, by decide⟩

theorem uses_idLine :
    uses "    id = Column(Integer, primary_key=True)".toList =
      ["Column".toList, "Integer".toList, "True".toList] := by
  decide

theorem uses_timestampLines : ∀ line ∈ timestampLines, ∀ n,
    n ∈ uses line.toList ↔ n ∈ ["Column".toList, "DateTime".toList, "datetime".toList] := by
  have huses : timestampLines.map (fun line => uses line.toList) =
      [["Column".toList, "DateTime".toList, "datetime".toList],
        ["Column".toList, "DateTime".toList, "datetime".toList, "datetime".toList]] := by
    decide
  intro line hl n
  have hline : uses line.toList ∈ timestampLines.map fun line => uses line.toList :=
    List.mem_map_of_mem hl
  rw [huses, List.mem_cons, List.mem_singleton] at hline
  obtain h | h := hline
  · rw [h]
  · simp only [h, List.mem_cons, List.not_mem_nil, or_false, or_self]

theorem provided_of_import {name : String} (h : name ∈ request.imports) :
    request.Provided name.toList :=
  .inl (List.mem_map_of_mem h)

/-- A name that a declaration uses is a built-in one, or it is provided. -/
theorem provided_of_uses (hfields : ∀ field ∈ request.fields, field.Accepted)
    (hrelationships : ∀ r ∈ request.relationships, r.Accepted)
    (hl : line ∈ request.declarations) (hn : n ∈ uses line.toList) :
    n ∈ builtins ∨ request.Provided n := by
  have hcolumn : request.Provided "Column".toList := provided_of_import (mem_imports.2 (.inl rfl))
  have hinteger : request.Provided "Integer".toList :=
    provided_of_import (mem_imports.2 (.inr (.inl rfl)))
  obtain rfl | ⟨field, hf, rfl⟩ | ⟨r, hr, hone, rfl⟩ | ⟨ht, hl⟩ | ⟨r, hr, rfl⟩ :=
    mem_declarations.1 hl
  · simp only [uses_idLine, List.mem_cons, List.not_mem_nil, or_false] at hn
    obtain rfl | rfl | rfl := hn
    · exact .inr hcolumn
    · exact .inr hinteger
    · exact .inl (by decide)
  · obtain hb | rfl | rfl | ⟨hnow, hn⟩ := Field.mem_uses_columnLine (hfields field hf) hn
    · exact .inl hb
    · exact .inr hcolumn
    · exact .inr (provided_of_import
        (mem_imports.2 (.inr (.inr (.inl ⟨field, hf, field.type.head_columnType.symm⟩)))))
    · obtain ht | ht := hnow.1
      · rw [ht, names_now.1, List.mem_singleton] at hn
        exact .inr (.inr (.inr (.inl ⟨hn, needsDateTime_iff.2 (.inr ⟨field, hf, ht, hnow⟩)⟩)))
      · rw [ht, names_now.2, List.mem_singleton] at hn
        exact .inr (.inr (.inr (.inr ⟨hn, needsDate_iff.2 ⟨field, hf, ht, hnow⟩⟩)))
  · simp only [Relationship.uses_foreignKeyLine (hrelationships r hr), List.mem_cons,
      List.not_mem_nil, or_false] at hn
    obtain rfl | rfl | rfl := hn
    · exact .inr hcolumn
    · exact .inr hinteger
    · exact .inr (provided_of_import
        (mem_imports.2 (.inr (.inr (.inr (.inr ⟨rfl, r, hr, hone⟩))))))
  · rw [uses_timestampLines line hl] at hn
    simp only [List.mem_cons, List.not_mem_nil, or_false] at hn
    obtain rfl | rfl | rfl := hn
    · exact .inr hcolumn
    · exact .inr (provided_of_import (mem_imports.2 (.inr (.inr (.inr (.inl ⟨rfl, ht⟩))))))
    · exact .inr (.inr (.inr (.inl ⟨rfl, needsDateTime_iff.2 (.inl ht)⟩)))
  · rw [Relationship.uses_attributeLine (hrelationships r hr), List.mem_cons,
      List.mem_ite_nil_right, List.mem_singleton] at hn
    obtain rfl | ⟨-, rfl⟩ := hn
    · exact .inr (.inr (.inl ⟨rfl, List.ne_nil_of_mem hr⟩))
    · exact .inl (by decide)

/-- Every provided name is used by a declaration. -/
theorem uses_of_provided (hfields : ∀ field ∈ request.fields, field.Accepted)
    (hrelationships : ∀ r ∈ request.relationships, r.Accepted) (hn : request.Provided n) :
    ∃ line ∈ request.declarations, n ∈ uses line.toList := by
  have hid : "    id = Column(Integer, primary_key=True)" ∈ request.declarations :=
    mem_declarations.2 (.inl rfl)
  have hcolumn {field : Field} (hf : field ∈ request.fields) :
      field.columnLine ∈ request.declarations := mem_declarations.2 (.inr (.inl ⟨field, hf, rfl⟩))
  have htimes (ht : request.timestamps = true) (hm : n ∈ ["DateTime".toList, "datetime".toList]) :
      ∃ line ∈ request.declarations, n ∈ uses line.toList := by
    have hl : "    created_at = Column(DateTime, default=datetime.utcnow)" ∈ timestampLines :=
      List.mem_cons_self
    exact ⟨_, mem_declarations.2 (.inr (.inr (.inr (.inl ⟨ht, hl⟩)))),
      (uses_timestampLines _ hl n).2 (List.mem_cons_of_mem _ hm)⟩
  obtain hn | ⟨rfl, hne⟩ | ⟨rfl, hneeds⟩ | ⟨rfl, hneeds⟩ := hn
  · obtain ⟨name, hname, rfl⟩ := List.mem_map.1 hn
    obtain rfl | rfl | ⟨field, hf, he⟩ | ⟨rfl, ht⟩ | ⟨rfl, r, hr, hone⟩ := mem_imports.1 hname
    · exact ⟨_, hid, by rw [uses_idLine]; decide⟩
    · exact ⟨_, hid, by rw [uses_idLine]; decide⟩
    · rw [he, FieldType.head_columnType]
      exact ⟨_, hcolumn hf, by simp [Field.uses_columnLine (hfields field hf)]⟩
    · exact htimes ht (by decide)
    · refine ⟨_, mem_declarations.2 (.inr (.inr (.inl ⟨r, hr, hone, rfl⟩))), ?_⟩
      rw [Relationship.uses_foreignKeyLine (hrelationships r hr)]
      decide
  · obtain ⟨r, hr⟩ := List.exists_mem_of_ne_nil _ hne
    refine ⟨_, mem_declarations.2 (.inr (.inr (.inr (.inr ⟨r, hr, rfl⟩)))), ?_⟩
    rw [Relationship.uses_attributeLine (hrelationships r hr)]
    exact List.mem_cons_self
  · obtain ht | ⟨field, hf, ht, hnow⟩ := needsDateTime_iff.1 hneeds
    · exact htimes ht (by decide)
    · have huses := Field.uses_columnLine_now (hfields field hf) hnow
      rw [ht, names_now.1] at huses
      exact ⟨_, hcolumn hf, huses (List.mem_singleton_self _)⟩
  · obtain ⟨field, hf, ht, hnow⟩ := needsDate_iff.1 hneeds
    have huses := Field.uses_columnLine_now (hfields field hf) hnow
    rw [ht, names_now.2] at huses
    exact ⟨_, hcolumn hf, huses (List.mem_singleton_self _)⟩

end Uses

/-! ### The imports of the text -/

/-- The modules of other parties that a model imports from. -/
def origins : List String := ["sqlalchemy", "sqlalchemy.orm", "datetime"]

theorem importedFrom_columns :
    importedFrom "sqlalchemy"
      ("from sqlalchemy import " ++ String.intercalate ", " request.imports).toList =
        request.imports.map String.toList := by
  have hword : ∀ name ∈ importable, names name.toList = [name.toList] ∧ Closed name.toList := by
    decide
  have hhead : "from sqlalchemy import " = "from " ++ "sqlalchemy" ++ " import " := by decide
  rw [String.toList_append, hhead, importedFrom_append]
  exact names_intercalate fun name hn => hword name (List.mem_filter.1 hn).1

theorem importedFrom_dates {n : List Char} :
    (∃ line ∈ request.dateLines, n ∈ importedFrom "datetime" line.toList) ↔
      n = "datetime".toList ∧ request.needsDateTime = true ∨
        n = "date".toList ∧ request.needsDate = true := by
  have hboth : importedFrom "datetime" "from datetime import date, datetime".toList =
      ["date".toList, "datetime".toList] := by decide
  have hdateTime : importedFrom "datetime" "from datetime import datetime".toList =
      ["datetime".toList] := by decide
  have hdate : importedFrom "datetime" "from datetime import date".toList = ["date".toList] := by
    decide
  rw [dateLines]
  cases request.needsDate <;> cases request.needsDateTime <;>
    simp only [hboth, hdateTime, hdate, List.mem_cons, List.not_mem_nil, or_false, false_and,
      exists_eq_left, exists_false, and_true, and_false, false_or, Bool.false_eq_true, or_comm]

/-- The provided names are those that the imports of the model list. -/
theorem provided_iff {n : List Char} :
    request.Provided n ↔ ∃ origin ∈ origins, ∃ line ∈ request.modelLines,
      n ∈ importedFrom origin line.toList := by
  have horm : importedFrom "sqlalchemy.orm" "from sqlalchemy.orm import relationship".toList =
      ["relationship".toList] := by decide
  constructor
  · rintro (hn | ⟨rfl, hne⟩ | hn)
    · exact ⟨"sqlalchemy", by decide, _, mem_modelLines.2 (.inl rfl),
        importedFrom_columns ▸ hn⟩
    · exact ⟨"sqlalchemy.orm", by decide, _, mem_modelLines.2 (.inr (.inl ⟨hne, rfl⟩)),
        by rw [horm]; decide⟩
    · obtain ⟨line, hl, hn⟩ := importedFrom_dates.2 hn
      exact ⟨"datetime", by decide, line, mem_modelLines.2 (.inr (.inr (.inl hl))), hn⟩
  · rintro ⟨origin, ho, line, hl, hn⟩
    have hbegin : ("from " ++ origin ++ " import ").toList <+: line.toList :=
      Classical.not_not.1 fun hp => by simp [importedFrom_eq_nil hp] at hn
    have hfrom : "from ".toList <+: ("from " ++ origin ++ " import ").toList := by
      simp [String.append_assoc]
    simp only [origins, List.mem_cons, List.not_mem_nil, or_false] at ho
    obtain rfl | ⟨hne, rfl⟩ | hl | rfl := import_cases hl (hfrom.trans hbegin)
    · obtain rfl | rfl | rfl := ho
      · exact .inl (importedFrom_columns ▸ hn)
      · simp at hbegin
      · simp at hbegin
    · obtain rfl | rfl | rfl := ho
      · simp at hbegin
      · rw [horm, List.mem_singleton] at hn
        exact .inr (.inl ⟨hn, hne⟩)
      · simp at hbegin
    · have hother : ∀ line ∈ request.dateLines, importedFrom "sqlalchemy" line.toList = [] ∧
          importedFrom "sqlalchemy.orm" line.toList = [] := by
        rw [dateLines]
        cases request.needsDate <;> cases request.needsDateTime <;> decide
      obtain rfl | rfl | rfl := ho
      · simp [(hother line hl).1] at hn
      · simp [(hother line hl).2] at hn
      · exact .inr (.inr (importedFrom_dates.1 ⟨line, hl, hn⟩))
    · obtain rfl | rfl | rfl := ho <;> simp at hbegin

/-- **Models import what they use.** Let the fields and relationships of a request be accepted ones.
The list of imports follows the fixed order without repetition and holds the names that the types of
the fields, the columns of times and the foreign keys ask for; the moments are imported if, and only
if, a column of times or a default prints them. In the model that is generated, every name that a
declaration uses is a built-in one or is imported by a line, and every name that is imported from a
module of another party is used by a declaration. -/
theorem generate_model_imports {fieldSpec relationshipSpec : Option String}
    {fields : List Field} {relationships : List Relationship} (entity : Entity)
    (timestamps : Bool) (w : Workspace) (hfields : Field.parseList fieldSpec = .ok fields)
    (hrelationships : Relationship.parseList relationshipSpec = .ok relationships) :
    let request : Request := ⟨entity, fields, relationships, timestamps⟩
    request.imports.Nodup ∧ request.imports.Sublist importable ∧
      (∀ n, n ∈ request.imports ↔ n = "Column" ∨ n = "Integer" ∨
        (∃ field ∈ fields, n.toList = field.type.columnType.toList.takeWhile (· != '(')) ∨
        (n = "DateTime" ∧ timestamps = true) ∨
        (n = "ForeignKey" ∧ ∃ r ∈ relationships, r.cardinality = .one)) ∧
      (request.needsDateTime = true ↔ timestamps = true ∨
        ∃ field ∈ fields, field.defaultExpression = some "datetime.utcnow") ∧
      (request.needsDate = true ↔ ∃ field ∈ fields, field.defaultExpression = some "date.today") ∧
      ∃ artifact w', (request.generate .model .library : Action (StateM Workspace) Artifact).run w =
          (.ok artifact, w') ∧
        artifact.content = Template.Library.ofLines request.modelLines ∧
        request.declarations ⊆ request.modelLines ∧
        (∀ line ∈ request.declarations, ∀ n ∈ uses line.toList, n ∈ builtins ∨
          ∃ origin ∈ origins, ∃ line' ∈ request.modelLines, n ∈ importedFrom origin line'.toList) ∧
        (∀ origin ∈ origins, ∀ line ∈ request.modelLines, ∀ n ∈ importedFrom origin line.toList,
          ∃ line' ∈ request.declarations, n ∈ uses line'.toList) := by
  have hf : ∀ field ∈ fields, field.Accepted := Field.accepted_of_mem_parseList hfields
  have hr : ∀ r ∈ relationships, r.Accepted :=
    Relationship.accepted_of_mem_parseList hrelationships
  intro request
  have hnow {moment : FieldType} (hm : moment.IsMoment) :
      (∃ field ∈ fields, field.type = moment ∧ field.TakesNow) ↔
        ∃ field ∈ fields, field.defaultExpression = some moment.nowExpression :=
    exists_congr fun field => and_congr_right fun hfield =>
      (Field.defaultExpression_eq_now (hf field hfield) hm).symm
  have hsublist : request.imports.Sublist importable := List.filter_sublist
  have hnodup : importable.Nodup := by decide
  obtain ⟨w', hrun, -⟩ := request.generate_model w
  refine ⟨hsublist.nodup hnodup, hsublist, fun n => mem_imports,
    needsDateTime_iff.trans (or_congr_right (hnow (.inl rfl))),
    needsDate_iff.trans (hnow (.inr rfl)), _, w', hrun, rfl, declarations_subset, ?_, ?_⟩
  · intro line hl n hn
    exact (provided_of_uses hf hr hl hn).imp_right provided_iff.1
  · intro origin ho line hl n hn
    exact uses_of_provided hf hr (provided_iff.2 ⟨origin, ho, line, hl, hn⟩)

/-- A column of dates with the present day as its default has its type and the day imported. -/
theorem generate_model_imports_today :
    Field.parseList (some "a:date:default=now") = .ok [⟨"a", .date, { default := some .now }⟩] ∧
      Relationship.parseList none = .ok [] ∧
      "Date" ∈ imports ⟨⟨"Post", "post"⟩, [⟨"a", .date, { default := some .now }⟩], [], false⟩ ∧
      needsDate ⟨⟨"Post", "post"⟩, [⟨"a", .date, { default := some .now }⟩], [], false⟩ = true := by
  have hfields : Field.parseList (some "a:date:default=now") =
      .ok [⟨"a", .date, { default := some .now }⟩] := by decide
  have hrelationships : Relationship.parseList none = .ok [] := rfl
  obtain ⟨-, -, himports, -, hdate, -⟩ := generate_model_imports ⟨"Post", "post"⟩ false
    ⟨.empty, []⟩ hfields hrelationships
  refine ⟨hfields, hrelationships,
    (himports "Date").2 (.inr (.inr (.inl ⟨_, List.mem_cons_self, ?_⟩))),
    hdate.2 ⟨_, List.mem_cons_self, rfl⟩⟩
  exact (FieldType.head_columnType .date).symm

end Request

end Groundwork
