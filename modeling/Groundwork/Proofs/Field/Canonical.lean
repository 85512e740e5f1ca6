import Groundwork.Proofs.Entity
import Groundwork.Proofs.Entry.Lists

/-!
# Canonical entries

The text of a field is made of identifiers with colons between them (`Field.text_eq`), so it can be
cut into its parts again and put into a list. Read as an entry it gives the field with the natural
default in the place of a default, since the text tells that there is a default but not which one
(`Field.parse_text`). For lists of accepted fields this holds of each field in turn
(`Field.parseList_texts`).
-/

namespace Groundwork

open Text

/-! ## Modifiers -/

namespace Modifiers

/-- The word for a keyword where it is written out. -/
def Keyword.name : Keyword → String
  | nullable => "nullable"
  | unique => "unique"
  | index => "index"
  | default => "default"

/-- Whether modifiers have what a keyword is about. -/
def has (ms : Modifiers) : Keyword → Bool
  | .nullable => ms.nullable
  | .unique => ms.unique
  | .index => ms.index
  | .default => ms.default.isSome

/-- What modifiers have, in the order in which it is written out. -/
def keywords (ms : Modifiers) : List Keyword :=
  [Keyword.nullable, .unique, .index, .default].filter ms.has

/-- The modifiers with what a keyword is about, the default being the natural one. -/
def insert (ms : Modifiers) : Keyword → Modifiers
  | .nullable => { ms with nullable := true }
  | .unique => { ms with unique := true }
  | .index => { ms with index := true }
  | .default => { ms with default := some .implicit }

/-- The modifiers with the natural default in the place of a default. -/
def canonical (ms : Modifiers) : Modifiers :=
  { ms with default := ms.default.map fun _ => .implicit }

theorem add_name (field : String) (type : FieldType) (ms : Modifiers) (keyword : Keyword) :
    add field type ms keyword.name = .ok (ms.insert keyword) := by
  have hcut : cutValue keyword.name = (keyword.name, none) :=
    cutValue_of_not_mem (by cases keyword <;> decide)
  have hword : Keyword.ofWord? keyword.name = some keyword := by
    rw [Keyword.ofWord?_iff]
    exact ⟨keyword.name, by cases keyword <;> decide, by cases keyword <;> decide⟩
  simp only [add, hcut, hword]
  cases keyword <;> rfl

theorem foldlM_names (field : String) (type : FieldType) (ms : Modifiers) (ks : List Keyword) :
    (ks.map Keyword.name).foldlM (add field type) ms = .ok (ks.foldl insert ms) := by
  induction ks generalizing ms with
  | nil => rfl
  | cons k ks ih =>
    rw [List.map_cons, List.foldlM_cons, add_name]
    exact ih (ms.insert k)

theorem foldl_keywords (ms : Modifiers) : ms.keywords.foldl insert {} = ms.canonical := by
  obtain ⟨_ | _, _ | _, _ | _, _ | d⟩ := ms <;> rfl

theorem canonical_eq_self_iff {ms : Modifiers} :
    ms.canonical = ms ↔ ms.default = none ∨ ms.default = some .implicit := by
  obtain ⟨nullable, unique, index, _ | d⟩ := ms
  · simp [canonical]
  · simp [canonical, eq_comm]

end Modifiers

/-! ## Entries -/

theorem FieldType.names_name (type : FieldType) : Names words type.name type :=
  ⟨type.name, by cases type <;> decide, by cases type <;> decide⟩

namespace Field

/-- The field with the natural default in the place of a default. -/
def canonical (field : Field) : Field := { field with modifiers := field.modifiers.canonical }

/-- The parts of the text of a field. -/
def canonicalParts (field : Field) : List String :=
  field.name :: field.type.name :: field.modifiers.keywords.map Modifiers.Keyword.name

/-- The text of a field is made of its parts, with colons between them. -/
theorem text_eq (field : Field) : field.text = String.intercalate ":" field.canonicalParts := by
  obtain ⟨name, type, ⟨_ | _, _ | _, _ | _, _ | d⟩⟩ := field <;>
    simp [text, canonicalParts, Modifiers.keywords, Modifiers.has, Modifiers.Keyword.name,
      List.filter_cons, String.append_assoc]

variable {field : Field}

/-- The parts of a text are identifiers, so no sign of an entry stands in them. -/
theorem isIdentifierTail_of_mem_canonicalParts (h : IsName field.name) :
    ∀ part ∈ field.canonicalParts, isIdentifierTail part.toList = true := by
  have htype : ∀ type : FieldType, isIdentifierTail type.name.toList = true := by
    intro type
    cases type <;> decide +kernel
  have hkeyword : ∀ k : Modifiers.Keyword, isIdentifierTail k.name.toList = true := by
    intro k
    cases k <;> decide +kernel
  intro part hpart
  rw [canonicalParts, List.mem_cons, List.mem_cons, List.mem_map] at hpart
  obtain rfl | rfl | ⟨k, -, rfl⟩ := hpart
  · exact isIdentifierTail_of_member (isMemberName_iff.2 h)
  · exact htype field.type
  · exact hkeyword k

/-- A character of the text of a field is a colon or belongs to an identifier. -/
theorem mem_text (h : IsName field.name) {c : Char} (hc : c ∈ field.text.toList) :
    c = ':' ∨ isIdentifierTail [c] = true := by
  rw [text_eq, toList_intercalate (show ":".toList = [':'] from rfl)] at hc
  refine (mem_joinPieces hc).imp_right ?_
  rintro ⟨p, hp, hc⟩
  obtain ⟨part, hpart, rfl⟩ := List.mem_map.1 hp
  have htail := isIdentifierTail_of_mem_canonicalParts h part hpart
  rw [isIdentifierTail, List.all_eq_true] at htail
  simpa [isIdentifierTail] using htail c hc

theorem not_blank_of_mem_text (h : IsName field.name) {c : Char} (hc : c ∈ field.text.toList) :
    isBlank c = false := by
  obtain rfl | htail := mem_text h hc
  · decide
  · exact not_blank_of_identifierTail htail (List.mem_singleton_self c)

theorem comma_not_mem_text (h : IsName field.name) : ',' ∉ field.text.toList := by
  intro hmem
  obtain hcolon | htail := mem_text h hmem
  · cases hcolon
  · exact absurd htail (by decide +kernel)

theorem trim_text (h : IsName field.name) : trim field.text = field.text := by
  have hblank : ∀ c ∈ field.text.toList, isBlank c = false := fun c hc => not_blank_of_mem_text h hc
  rw [trim, trimChars_of_not_blank hblank, String.ofList_toList]

theorem isBlankText_text (field : Field) : isBlankText field.text = false := by
  have hcolon : ':' ∈ field.text.toList := by simp [text]
  rw [isBlankText, List.all_eq_false]
  exact ⟨':', hcolon, by decide⟩

theorem parts_text (h : IsName field.name) :
    (split ':' field.text).map trim = field.canonicalParts := by
  have htail := isIdentifierTail_of_mem_canonicalParts h
  have hcolon : ∀ part ∈ field.canonicalParts, ':' ∉ part.toList := by
    intro part hpart hmem
    exact absurd (List.all_eq_true.1 (htail part hpart) ':' hmem) (by decide +kernel)
  have htrim : ∀ part ∈ field.canonicalParts, trim part = part := by
    intro part hpart
    have hblank : ∀ c ∈ part.toList, isBlank c = false := fun c hc =>
      not_blank_of_identifierTail (htail part hpart) hc
    rw [trim, trimChars_of_not_blank hblank, String.ofList_toList]
  have hne : field.canonicalParts ≠ [] := List.cons_ne_nil _ _
  rw [text_eq, split_intercalate (show ":".toList = [':'] from rfl) hne hcolon,
    List.map_congr_left htrim, List.map_id']

/-- The text of a field is an entry for the field, the natural default being in the place of a
default. -/
theorem parse_text (h : IsName field.name) : parse field.text = .ok field.canonical := by
  rw [parse, parts_text h, canonicalParts,
    ofParts_of_names _ h (FieldType.names_name field.type), Modifiers.foldlM_names,
    Modifiers.foldl_keywords]
  rfl

/-- Nothing is lost from the text by reading it. -/
theorem text_canonical (field : Field) : field.canonical.text = field.text := by
  unfold text canonical Modifiers.canonical
  rw [Option.isSome_map]

theorem canonical_eq_self_iff :
    field.canonical = field ↔
      field.modifiers.default = none ∨ field.modifiers.default = some .implicit := by
  rw [← Modifiers.canonical_eq_self_iff]
  constructor
  · intro h
    exact congrArg Field.modifiers h
  · intro h
    rw [canonical, h]

/-! ## Lists -/

theorem spells_text (h : IsName field.name) : Entry.Spells parse field.text field.canonical := by
  refine ⟨isBlankText_text field, ?_⟩
  rw [trim_text h]
  exact parse_text h

theorem parseList_of_names {fields : List Field} (h : ∀ field ∈ fields, IsName field.name) :
    parseList (some (String.intercalate "," (fields.map text))) = .ok (fields.map canonical) := by
  rcases fields with _ | ⟨field, fields⟩
  · rfl
  · refine Entry.parseList_of_spells ?_
    have hcomma : ∀ part ∈ (field :: fields).map text, ',' ∉ part.toList := by
      intro part hpart
      obtain ⟨f, hf, rfl⟩ := List.mem_map.1 hpart
      exact comma_not_mem_text (h f hf)
    rw [split_intercalate (show ",".toList = [','] from rfl) (by simp) hcomma,
      List.forall₂_map_left_iff, List.forall₂_map_right_iff, List.forall₂_same]
    exact fun f hf => spells_text (h f hf)

/-- **Texts of fields.** The texts of accepted fields, with commas between them, are a list that is
accepted, for the same fields in the same order with the natural default in the place of every
default. These are the very same fields exactly if none of them has another default than the natural
one, and their texts are the same in any case. -/
theorem parseList_texts {spec : Option String} {fields : List Field}
    (h : parseList spec = .ok fields) :
    parseList (some (String.intercalate "," (fields.map text))) = .ok (fields.map canonical) ∧
      (parseList (some (String.intercalate "," (fields.map text))) = .ok fields ↔
        ∀ field ∈ fields,
          field.modifiers.default = none ∨ field.modifiers.default = some .implicit) ∧
      (fields.map canonical).map text = fields.map text := by
  have hnames : ∀ field ∈ fields, IsName field.name := fun field hf =>
    isMemberName_iff.1 (accepted_of_mem_parseList h field hf).name
  have hparse := parseList_of_names hnames
  refine ⟨hparse, ?_, ?_⟩
  · have hself : fields.map canonical = fields ↔ ∀ field ∈ fields, field.canonical = field := by
      rw [← List.map_inj_left, List.map_id']
    rw [hparse, Except.ok.injEq, hself]
    exact forall₂_congr fun field _ => canonical_eq_self_iff
  · rw [List.map_map]
    exact List.map_congr_left fun field _ => text_canonical field

/-- A literal is lost, the natural default is kept, and so are two fields of one name. -/
theorem parseList_texts_literal :
    parseList (some " Ação_1 : Str : UNIQUE : default = a=b ,_x:json:default:indexed,_x:INT") =
        .ok [⟨"Ação_1", .string, { unique := true, default := some (.text "a=b") }⟩,
          ⟨"_x", .json, { index := true, default := some .implicit }⟩, ⟨"_x", .integer, {}⟩] ∧
      parseList (some "Ação_1:string:unique:default,_x:json:index:default,_x:int") =
        .ok [⟨"Ação_1", .string, { unique := true, default := some .implicit }⟩,
          ⟨"_x", .json, { index := true, default := some .implicit }⟩, ⟨"_x", .integer, {}⟩] := by
  have hparse : parseList
      (some " Ação_1 : Str : UNIQUE : default = a=b ,_x:json:default:indexed,_x:INT") =
      .ok [⟨"Ação_1", .string, { unique := true, default := some (.text "a=b") }⟩,
        ⟨"_x", .json, { index := true, default := some .implicit }⟩, ⟨"_x", .integer, {}⟩] := by
    decide +kernel
  exact ⟨hparse, (parseList_texts hparse).1⟩

end Field

end Groundwork
