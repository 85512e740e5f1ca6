import Groundwork.Proofs.Artifact.Printing
import Groundwork.Proofs.Entry
import Groundwork.Proofs.Inflection
import Groundwork.Proofs.Literal
import Mathlib.Data.List.Nodup

/-!
# Nothing typed becomes code

What a user types reaches the model that is generated, but only where it is meant to. Every piece of
a line is printable: names and tables by their characters, defaults because a text is quoted and a
number consists of signs and digits (`Default.printable_expression`). So no line holds a control
character (`Request.printable_of_mem_modelLines`), the text of a model has exactly the line feeds
that end its lines, and their number depends on nothing but how much there is to declare
(`Request.length_modelLines`).
-/

namespace Groundwork

open Text

/-! ## Printable texts -/

/-- Whether a text holds no control character. -/
def Text.Printable (s : String) : Prop := ∀ c ∈ s.toList, isControl c = false

namespace Text

instance (s : String) : Decidable (Printable s) :=
  decidable_of_iff (s.toList.all (!isControl ·) = true) (by simp [Printable])

variable {s t : String} {ss : List String}

theorem printable_append : Printable (s ++ t) ↔ Printable s ∧ Printable t := by
  simp only [Printable, String.toList_append, List.forall_mem_append]

theorem printable_join : Printable (String.join ss) ↔ ∀ s ∈ ss, Printable s := by
  induction ss with
  | nil => simp [Printable]
  | cons s ss ih => rw [String.join_cons, printable_append, ih, List.forall_mem_cons]

theorem printable_intercalate (hsep : Printable s) (h : ∀ t ∈ ss, Printable t) :
    Printable (String.intercalate s ss) := by
  induction ss with
  | nil => exact (by decide : Printable "")
  | cons t ss ih =>
    rw [List.forall_mem_cons] at h
    cases ss with
    | nil => simpa using h.1
    | cons u ss =>
      rw [String.intercalate_cons_cons, printable_append, printable_append]
      exact ⟨⟨h.1, hsep⟩, ih h.2⟩

theorem printable_of_clear (h : ∀ c ∈ s.toList, isClear c = true) : Printable s :=
  fun c hc => not_control_of_clear (h c hc)

theorem printable_of_identifierTail (h : isIdentifierTail s.toList = true) : Printable s :=
  printable_of_clear fun _ hc => clear_of_identifierTail h hc

theorem not_mem_of_printable (h : Printable s) : '\n' ∉ s.toList :=
  fun hc => absurd (h _ hc) (by decide)

end Text

/-! ## Defaults -/

theorem Numeral.not_control_of_mem_sign {cs : List Char} (h : IsSign cs) {c : Char} (hc : c ∈ cs) :
    isControl c = false := by
  obtain rfl | rfl | rfl := h
  · simp at hc
  · obtain rfl := List.mem_singleton.1 hc
    decide
  · obtain rfl := List.mem_singleton.1 hc
    decide

theorem not_control_of_digit {c : Char} (h : isAsciiDigit c = true) : isControl c = false :=
  not_control_of_alphanumeric (alphanumeric_of_asciiDigit h)

theorem Numeral.not_control_of_mem_spelling {n : Numeral} (h : n.WellFormed) {c : Char}
    (hc : c ∈ n.spelling) : isControl c = false := by
  rw [spelling, List.mem_append, List.mem_append, List.mem_append] at hc
  obtain ((hc | hc) | hc) | hc := hc
  · exact not_control_of_mem_sign h.sign hc
  · exact not_control_of_digit (List.all_eq_true.1 h.whole c hc)
  · obtain hf | ⟨ds, hf, hds⟩ := h.fraction
    · simp [hf] at hc
    · rw [hf, List.mem_cons] at hc
      obtain rfl | hc := hc
      · decide
      · exact not_control_of_digit (List.all_eq_true.1 hds c hc)
  · obtain he | ⟨e, sign, ds, he, hmark, hs, hds⟩ := h.exponent
    · simp [he] at hc
    · rw [he, List.mem_cons, List.mem_append] at hc
      obtain rfl | hc | hc := hc
      · obtain rfl | rfl := hmark <;> decide
      · exact not_control_of_mem_sign hs hc
      · exact not_control_of_digit (List.all_eq_true.1 hds c hc)

theorem Default.printable_expression {type : FieldType} {d : Default} (h : d.Fits type) :
    Printable (d.expression type) := by
  obtain rfl | ⟨literal, hl⟩ := h
  · cases type <;> decide
  · obtain rfl | ⟨n, hn, hs, rfl⟩ | ⟨b, rfl⟩ | ⟨rfl, -⟩ := ofLiteral?_eq_some hl
    · intro c hc
      rw [expression, Literal.quote, String.toList_ofList] at hc
      exact not_control_of_mem_quoteChars hc
    · intro c hc
      rw [expression, ← hs] at hc
      exact Numeral.not_control_of_mem_spelling hn hc
    · cases b
      · exact (by decide : Printable "False")
      · exact (by decide : Printable "True")
    · cases type <;> decide

/-! ## Lines -/

theorem Field.printable_columnLine {field : Field} (h : field.Accepted) :
    Printable field.columnLine := by
  have hdefault : Printable (field.defaultExpression.elim "" (", default=" ++ ·)) := by
    rw [defaultExpression]
    rcases hd : field.modifiers.default with _ | d
    · exact (by decide : Printable "")
    · exact printable_append.2 ⟨by decide, Default.printable_expression (h.default d hd)⟩
  simp only [columnLine, printable_join, List.forall_mem_cons, List.not_mem_nil, false_implies,
    implies_true, and_true]
  refine ⟨by decide, printable_of_identifierTail (isIdentifierTail_of_member h.name),
    by decide, ?_, by decide, ?_, ?_, ?_, hdefault, by decide⟩
  · cases field.type <;> decide
  all_goals split <;> decide

theorem Relationship.printable_foreignKeyLine {r : Relationship} (h : r.Accepted) :
    Printable r.foreignKeyLine := by
  simp only [foreignKeyLine, printable_join, List.forall_mem_cons, List.not_mem_nil, false_implies,
    implies_true, and_true]
  refine ⟨by decide, printable_append.2 ⟨?_, by decide⟩, by decide, ?_,
    by decide⟩
  · exact printable_of_identifierTail (isIdentifierTail_of_member h.name)
  · exact printable_of_identifierTail (Inflection.isIdentifierTail_tableName _)

theorem Relationship.clear_of_mem_target {r : Relationship} (h : r.Accepted) {c : Char}
    (hc : c ∈ r.target.toList) : isClear c = true := by
  obtain ⟨raw, entity, he, ht⟩ := h.target
  exact Entity.clear_of_mem_typeName he (ht ▸ hc)

theorem Relationship.printable_attributeLine {r : Relationship} (h : r.Accepted) :
    Printable r.attributeLine := by
  simp only [attributeLine, printable_join, List.forall_mem_cons, List.not_mem_nil, false_implies,
    implies_true, and_true]
  refine ⟨by decide, printable_of_identifierTail (isIdentifierTail_of_member h.name),
    by decide, printable_of_clear fun _ hc => clear_of_mem_target h hc, by decide,
    ?_, by decide⟩
  split <;> decide

namespace Request

/-- What holds of a request whose parts are all accepted. -/
structure Accepted (request : Request) : Prop where
  entity : ∃ raw, Entity.parse raw = .ok request.entity
  fields : ∀ field ∈ request.fields, field.Accepted
  relationships : ∀ r ∈ request.relationships, r.Accepted

variable {request : Request}

theorem printable_of_mem_modelLines (h : request.Accepted) {line : String}
    (hl : line ∈ request.modelLines) : Printable line := by
  have himports : ∀ name ∈ request.imports, Printable name := by
    have hall : ∀ name ∈ importable, Printable name := by decide
    exact fun name hn => hall name (List.mem_filter.1 hn |>.1)
  have hname : Printable request.entity.typeName := by
    obtain ⟨raw, hraw⟩ := h.entity
    exact printable_of_clear fun _ hc => Entity.clear_of_mem_typeName hraw hc
  have htable : Printable request.entity.tableName :=
    printable_of_identifierTail (Inflection.isIdentifierTail_tableName _)
  have hdates : ∀ line ∈ request.dateLines, Printable line := by
    rw [dateLines]
    cases request.needsDate <;> cases request.needsDateTime <;> decide
  have hhead : ∀ line ∈ request.headLines, Printable line := by
    have hfixed : ∀ line ∈ ["from .base import Base", "", "class ", "(Base):",
        "    __tablename__ = '", "'", "    id = Column(Integer, primary_key=True)"],
        Printable line := by decide
    simp only [List.forall_mem_cons] at hfixed
    simp only [headLines, List.forall_mem_cons, printable_append, hfixed, hname, htable, true_and]
    exact hfixed.2.2.2.2.2.2.2
  have htail : ∀ line ∈ request.tailLines, Printable line := by
    have hfixed : ∀ line ∈ ["", "    def __repr__(self):", "        return f'<",
        " \x7bself.id\x7d>'"], Printable line := by decide
    simp only [List.forall_mem_cons] at hfixed
    simp only [tailLines, List.forall_mem_cons, printable_append, hfixed, hname, true_and]
    exact hfixed.2.2.2.2
  have htimes : ∀ line ∈ timestampLines, Printable line := by decide
  obtain rfl | ⟨-, rfl⟩ | hl | hl | ⟨field, hf, rfl⟩ | ⟨r, hr, -, rfl⟩ | ⟨-, hl⟩ |
    ⟨-, rfl | ⟨r, hr, rfl⟩⟩ | hl := mem_modelLines.1 hl
  · exact printable_append.2
      ⟨by decide, printable_intercalate (by decide) himports⟩
  · decide
  · exact hdates _ hl
  · exact hhead _ hl
  · exact Field.printable_columnLine (h.fields field hf)
  · exact Relationship.printable_foreignKeyLine (h.relationships r hr)
  · exact htimes _ hl
  · decide
  · exact Relationship.printable_attributeLine (h.relationships r hr)
  · exact htail _ hl

/-! ### How many there are -/

/-- The lines of a model that are not indented. -/
theorem top_cases {line : String} (hl : line ∈ request.modelLines)
    (h : ¬"    ".toList <+: line.toList) :
    line = "" ∨ line = "class " ++ request.entity.typeName ++ "(Base):" ∨
      line = "from sqlalchemy import " ++ String.intercalate ", " request.imports ∨
      request.relationships ≠ [] ∧ line = "from sqlalchemy.orm import relationship" ∨
      line ∈ request.dateLines ∨ line = "from .base import Base" := by
  obtain hl | hl | hl | hl | ⟨field, hf, rfl⟩ | ⟨r, hr, -, rfl⟩ | ⟨-, hl⟩ |
    ⟨-, hl | ⟨r, hr, rfl⟩⟩ | hl := mem_modelLines.1 hl
  · exact .inr (.inr (.inl hl))
  · exact .inr (.inr (.inr (.inl hl)))
  · exact .inr (.inr (.inr (.inr (.inl hl))))
  · simp only [headLines, List.mem_cons, List.not_mem_nil, or_false] at hl
    obtain rfl | rfl | rfl | rfl | rfl | rfl | rfl := hl
    · exact .inr (.inr (.inr (.inr (.inr rfl))))
    · exact .inl rfl
    · exact .inl rfl
    · exact .inr (.inl rfl)
    · simp at h
    · exact .inl rfl
    · simp at h
  · simp [Field.columnLine] at h
  · simp [Relationship.foreignKeyLine] at h
  · simp only [timestampLines, List.mem_cons, List.not_mem_nil, or_false] at hl
    obtain rfl | rfl := hl <;> simp at h
  · exact .inl hl
  · simp [Relationship.attributeLine] at h
  · simp only [tailLines, List.mem_cons, List.not_mem_nil, or_false] at hl
    obtain rfl | rfl | rfl := hl
    · exact .inl rfl
    all_goals simp at h

/-- What begins with a mark that is not indented is not indented. -/
theorem not_indented {mark line : List Char} (h : mark <+: line)
    (hm : ("    ".toList.isPrefixOf mark || mark.isPrefixOf "    ".toList) = false) :
    ¬"    ".toList <+: line := by
  intro hi
  obtain hp | hp := List.prefix_or_prefix_of_prefix hi h
  · rw [List.isPrefixOf_iff_prefix.2 hp, Bool.true_or] at hm
    exact absurd hm nofun
  · rw [List.isPrefixOf_iff_prefix.2 hp, Bool.or_true] at hm
    exact absurd hm nofun

/-- The lines of a model that begin like an import. -/
theorem import_cases {line : String} (hl : line ∈ request.modelLines)
    (h : "from ".toList <+: line.toList) :
    line = "from sqlalchemy import " ++ String.intercalate ", " request.imports ∨
      request.relationships ≠ [] ∧ line = "from sqlalchemy.orm import relationship" ∨
      line ∈ request.dateLines ∨ line = "from .base import Base" := by
  obtain rfl | rfl | hl := top_cases hl (not_indented h (by decide))
  · simp at h
  · simp at h
  · exact hl

/-- Whether a line imports names of dates. -/
def isDateImport (line : List Char) : Bool := "from datetime import ".toList.isPrefixOf line

/-- The lines of a model that import names of dates. -/
theorem mem_dateLines_iff {line : String} :
    line ∈ request.dateLines ↔ line ∈ request.modelLines ∧ isDateImport line.toList = true := by
  constructor
  · intro hl
    have hall : ∀ line ∈ request.dateLines, isDateImport line.toList = true := by
      rw [dateLines]
      cases request.needsDate <;> cases request.needsDateTime <;> decide
    exact ⟨mem_modelLines.2 (.inr (.inr (.inl hl))), hall line hl⟩
  · rintro ⟨hl, hd⟩
    rw [isDateImport, List.isPrefixOf_iff_prefix] at hd
    have hfrom : "from ".toList <+: "from datetime import ".toList := by decide
    obtain rfl | ⟨-, rfl⟩ | hl | rfl := import_cases hl (hfrom.trans hd)
    · simp at hd
    · simp at hd
    · exact hl
    · simp at hd

theorem length_dateLines :
    request.dateLines.length =
      if (request.modelLines.map String.toList).any isDateImport then 1 else 0 := by
  have hany : (request.modelLines.map String.toList).any isDateImport = true ↔
      request.dateLines ≠ [] := by
    rw [List.any_map, List.any_eq_true]
    constructor
    · rintro ⟨line, hl⟩
      exact List.ne_nil_of_mem (mem_dateLines_iff.2 hl)
    · intro hne
      obtain ⟨line, hl⟩ := List.exists_mem_of_ne_nil _ hne
      exact ⟨line, mem_dateLines_iff.1 hl⟩
  have hle : request.dateLines.length ≤ 1 := by
    rw [dateLines]
    cases request.needsDate <;> cases request.needsDateTime <;> decide
  split
  · next h =>
    have hpos := List.length_pos_iff.2 (hany.1 h)
    omega
  · next h => rw [Classical.not_not.1 (mt hany.2 h), List.length_nil]

theorem length_modelLines : request.modelLines.length =
    11 + request.fields.length + (request.relationships.filter (·.cardinality == .one)).length
      + (if request.timestamps then 2 else 0) + request.dateLines.length
      + (if request.relationships = [] then 0 else 2 + request.relationships.length) := by
  have hlength (l : List String) (b : Bool) : (if b = true then l else []).length =
      if b = true then l.length else 0 := by cases b <;> rfl
  simp only [modelLines, List.length_append, List.length_map, List.length_cons, List.length_nil,
    hlength]
  cases request.relationships <;> simp <;> omega

end Request

/-! ## The generated text -/

/-- Whether a text can stand between single quotes as it is. -/
def Text.Quotable (s : String) : Prop :=
  ∀ c ∈ s.toList, c ≠ '\'' ∧ c ≠ '\\' ∧ isControl c = false

instance (s : String) : Decidable (Text.Quotable s) :=
  decidable_of_iff (s.toList.all fun c => c != '\'' && c != '\\' && !isControl c)
    (by simp [Text.Quotable, and_assoc])

/-- Whether a text is the name of a table: it is not empty and consists of letters, numbers and
underscores. -/
def Text.NamesTable (s : String) : Prop := s ≠ "" ∧ isIdentifierTail s.toList = true

theorem Text.quotable_of_clear {s : String} (h : ∀ c ∈ s.toList, isClear c = true) : Quotable s :=
  fun c hc => ⟨ne_of_clear (h c hc) (by decide), ne_of_clear (h c hc) (by decide),
    not_control_of_clear (h c hc)⟩

theorem Text.NamesTable.quotable {s : String} (h : NamesTable s) : Quotable s :=
  quotable_of_clear fun _ hc => clear_of_identifierTail h.2 hc

theorem Inflection.namesTable_tableName (typeName : String) : NamesTable (tableName typeName) :=
  ⟨tableName_ne_empty typeName, isIdentifierTail_tableName typeName⟩

namespace Request

variable {name : String} {fieldSpec relationshipSpec : Option String} {entity : Entity}
  {fields : List Field} {relationships : List Relationship}

/-- **Nothing typed becomes code.** Whatever name, fields and relationships are accepted, the model
is generated, and its text consists of the lines of the printer. No control character but the line
feed stands in it, and the number of line feeds depends only on how much there is to declare. The
names of fields and relationships are words, the classes between quotes hold nothing that ends or
escapes a literal, and the tables between quotes are words that are not empty. -/
theorem generate_model_confined (timestamps : Bool) (w : Workspace)
    (hentity : Entity.parse name = .ok entity)
    (hfields : Field.parseList fieldSpec = .ok fields)
    (hrelationships : Relationship.parseList relationshipSpec = .ok relationships) :
    ∃ artifact w', (generate .model .library ⟨entity, fields, relationships, timestamps⟩ :
        Action (StateM Workspace) Artifact).run w = (.ok artifact, w') ∧
      artifact.content = Template.Library.ofLines
        (modelLines ⟨entity, fields, relationships, timestamps⟩) ∧
      (∀ c ∈ artifact.content.toList, isControl c = true → c = '\n') ∧
      artifact.content.toList.count '\n' =
        11 + fields.length + (relationships.filter (·.cardinality == .one)).length
          + (if timestamps then 2 else 0)
          + (if (lines artifact.content.toList).any isDateImport then 1 else 0)
          + (if relationships = [] then 0 else 2 + relationships.length) ∧
      (∀ field ∈ fields, isIdentifierTail field.name.toList = true) ∧
      (∀ r ∈ relationships, isIdentifierTail r.name.toList = true ∧ Quotable r.target ∧
        Quotable r.targetTable ∧ NamesTable r.targetTable) ∧
      Quotable entity.typeName ∧ Quotable entity.tableName ∧ NamesTable entity.tableName := by
  have haccepted : Accepted ⟨entity, fields, relationships, timestamps⟩ :=
    ⟨⟨name, hentity⟩, Field.accepted_of_mem_parseList hfields,
      Relationship.accepted_of_mem_parseList hrelationships⟩
  generalize hrequest : (⟨entity, fields, relationships, timestamps⟩ : Request) = request
    at haccepted ⊢
  have hprintable : ∀ line ∈ request.modelLines, Printable line :=
    fun line hl => printable_of_mem_modelLines haccepted hl
  have hfeeds : ∀ line ∈ request.modelLines, '\n' ∉ line.toList :=
    fun line hl => not_mem_of_printable (hprintable line hl)
  obtain ⟨w', hrun, -⟩ := request.generate_model w
  refine ⟨_, w', hrun, rfl, fun c hc hcontrol => ?_, ?_, fun field hf => ?_, fun r hr => ?_, ?_, ?_,
    Inflection.namesTable_tableName _⟩
  · obtain rfl | ⟨line, hl, hc⟩ := Template.Library.mem_ofLines hc
    · rfl
    · simp [hprintable line hl c hc] at hcontrol
  · rw [Template.Library.count_ofLines hfeeds, length_modelLines, length_dateLines,
      Template.Library.lines_ofLines hfeeds, ← hrequest]
  · exact isIdentifierTail_of_member (Field.accepted_of_mem_parseList hfields field hf).name
  · have hr := Relationship.accepted_of_mem_parseList hrelationships r hr
    exact ⟨isIdentifierTail_of_member hr.name,
      quotable_of_clear fun _ hc => Relationship.clear_of_mem_target hr hc,
      (Inflection.namesTable_tableName _).quotable, Inflection.namesTable_tableName _⟩
  · exact quotable_of_clear fun _ hc => Entity.clear_of_mem_typeName hentity hc
  · exact (Inflection.namesTable_tableName _).quotable

/-- A default that would end its literal and its line stays inside of both. -/
theorem generate_model_confined_hostile :
    Entity.parse "post" = .ok ⟨"Post", "post"⟩ ∧
      Field.parseList (some "a:str:default='\n'") =
        .ok [⟨"a", .string, { default := some (.text "'\n'") }⟩] ∧
      Relationship.parseList (some "b:user:one") = .ok [⟨"b", "User", .one⟩] ∧
      ∃ artifact w', (generate .model .library ⟨⟨"Post", "post"⟩,
          [⟨"a", .string, { default := some (.text "'\n'") }⟩], [⟨"b", "User", .one⟩], false⟩ :
          Action (StateM Workspace) Artifact).run ⟨.empty, []⟩ = (.ok artifact, w') ∧
        (∀ c ∈ artifact.content.toList, isControl c = true → c = '\n') ∧
        artifact.content.toList.count '\n' =
          16 + if (lines artifact.content.toList).any isDateImport then 1 else 0 := by
  have hentity : Entity.parse "post" = .ok ⟨"Post", "post"⟩ := by decide
  have hfields : Field.parseList (some "a:str:default='\n'") =
      .ok [⟨"a", .string, { default := some (.text "'\n'") }⟩] := by decide
  have hrelationships : Relationship.parseList (some "b:user:one") =
      .ok [⟨"b", "User", .one⟩] := by decide
  obtain ⟨artifact, w', hrun, -, hcontrol, hcount, -⟩ :=
    generate_model_confined false ⟨.empty, []⟩ hentity hfields hrelationships
  refine ⟨hentity, hfields, hrelationships, artifact, w', hrun, hcontrol, ?_⟩
  rw [hcount]
  simp
  omega

end Request

end Groundwork
