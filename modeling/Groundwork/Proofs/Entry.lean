import Groundwork.Field.Basic
import Groundwork.Proofs.Entry.Parts
import Groundwork.Proofs.Literal
import Groundwork.Proofs.Text.LetterCase
import Groundwork.Relationship

/-!
# Accepted entries

What is known of a field or a relationship because its entry was accepted. The name of a field is
that of a member, and its default fits its type: one modifier brings in no other default
(`Modifiers.fits_add`), and so no number of them in any order does (`Modifiers.fits_foldlM`). The
target of a relationship is the class of an entity that was itself accepted. What holds of accepted
entries holds of the members of accepted lists, which come from them
(`Entry.exists_of_mem_parseList`).

The class of an accepted entity consists of letters, numbers and underscores, or of what the
upper-case form of a letter brings in: *clear* characters, among which is no sign that means
something in the generated code.
-/

namespace Groundwork

open Text

/-! ## Modifiers -/

/-- Whether a default is one that a column of a type can have: the natural one, or what a literal
denotes in the type. -/
def Default.Fits (type : FieldType) (d : Default) : Prop :=
  d = .implicit ∨ ∃ literal, ofLiteral? type literal = some d

/-- What a literal denotes: a text, a number that is spelled as a numeral, a truth value or, in a
column of times, the present moment. -/
theorem Default.ofLiteral?_eq_some {type : FieldType} {value : String} {d : Default}
    (h : ofLiteral? type value = some d) :
    d = .text value ∨
      (∃ n : Numeral, n.WellFormed ∧ n.spelling = value.toList ∧ d = .number value) ∨
      (∃ b, d = .boolean b) ∨ d = .now ∧ (type = .dateTime ∨ type = .date) := by
  unfold ofLiteral? at h
  split at h
  · exact .inl (Option.some.inj h).symm
  · exact .inl (Option.some.inj h).symm
  · obtain ⟨hv, hd⟩ := Option.ite_none_right_eq_some.1 h
    obtain ⟨n, hn, -⟩ := (Option.any_eq_true _ _).1 hv
    obtain ⟨m, hm, hs⟩ := integer?_spelled hn
    exact .inr (.inl ⟨m, hm, hs, (Option.some.inj hd).symm⟩)
  case h_6 =>
    obtain ⟨b, -, rfl⟩ := Option.map_eq_some_iff.1 h
    exact .inr (.inr (.inl ⟨b, rfl⟩))
  case h_7 =>
    obtain ⟨-, hd⟩ := Option.ite_none_right_eq_some.1 h
    exact .inr (.inr (.inr ⟨(Option.some.inj hd).symm, .inl rfl⟩))
  case h_8 =>
    obtain ⟨-, hd⟩ := Option.ite_none_right_eq_some.1 h
    exact .inr (.inr (.inr ⟨(Option.some.inj hd).symm, .inr rfl⟩))
  case h_9 => simp at h
  -- floating-point and decimal numbers
  all_goals
    obtain ⟨hv, hd⟩ := Option.ite_none_right_eq_some.1 h
    obtain ⟨n, hn, -⟩ := (Option.any_eq_true _ _).1 hv
    obtain ⟨m, hm, hs⟩ := decimal?_spelled hn
    exact .inr (.inl ⟨m, hm, hs, (Option.some.inj hd).symm⟩)

/-- Whether the default that modifiers give, if they give one, fits a type. -/
def Modifiers.Fits (type : FieldType) (ms : Modifiers) : Prop := ∀ d ∈ ms.default, d.Fits type

namespace Modifiers

variable {field : String} {type : FieldType} {ms ms' : Modifiers} {token : String}

theorem fits_add (hms : ms.Fits type) (h : ms.add field type token = .ok ms') :
    ms'.Fits type := by
  unfold add at h
  split at h
  split at h
  · obtain rfl := Except.ok.inj h
    exact hms
  · obtain rfl := Except.ok.inj h
    exact hms
  · obtain rfl := Except.ok.inj h
    exact hms
  · obtain rfl := Except.ok.inj h
    rintro d hd
    exact .inl (Option.some.inj hd).symm
  · next literal _ _ =>
    split at h
    · next d' hd' =>
      obtain rfl := Except.ok.inj h
      rintro d hd
      obtain rfl := Option.some.inj hd
      exact .inr ⟨literal, hd'⟩
    · simp at h
  · simp at h

theorem fits_foldlM {tokens : List String} (hms : ms.Fits type)
    (h : tokens.foldlM (add field type) ms = .ok ms') : ms'.Fits type := by
  induction tokens generalizing ms with
  | nil =>
    obtain rfl := Except.ok.inj h
    exact hms
  | cons token tokens ih =>
    rw [List.foldlM_cons] at h
    obtain ⟨next, hnext, h⟩ := bind_eq_ok.1 h
    exact ih (fits_add hms hnext) h

end Modifiers

/-! ## Names -/

theorem clear_of_identifierTail {cs : List Char} (h : isIdentifierTail cs = true) {c : Char}
    (hc : c ∈ cs) : isClear c = true := by
  have ht := List.all_eq_true.1 h c hc
  rw [isClear, ht, Bool.true_or]

theorem isIdentifierTail_of_member {name : String} (h : isMemberName name = true) :
    isIdentifierTail name.toList = true := by
  unfold isMemberName at h
  split at h
  · simp at h
  · next c cs hc =>
    rw [Bool.and_eq_true, Bool.or_eq_true] at h
    rw [hc, isIdentifierTail, List.all_cons, ← isIdentifierTail, h.2, Bool.and_true,
      Bool.or_eq_true]
    exact h.1.imp_left fun ha => by simp [isAlphanumeric, ha]

namespace Entity

/-- The class name for a name: its first character is a letter, the rest goes on as an identifier,
and an upper-case letter begins the form that is put for the first character. -/
theorem typeName?_eq_some {cs name : List Char} (h : typeName? cs = some name) :
    ∃ c rest u us, cs = c :: rest ∧ isAlphabetic c = true ∧ isIdentifierTail rest = true ∧
      upperForm c = u :: us ∧ isUppercase u = true ∧ name = u :: us ++ rest := by
  unfold typeName? at h
  split at h
  · simp at h
  · next c rest =>
    split at h
    · next hc =>
      rw [Bool.and_eq_true] at hc
      split at h
      · next u us hu =>
        split at h
        · next hup => exact ⟨c, rest, u, us, rfl, hc.1, hc.2, hu, hup, (Option.some.inj h).symm⟩
        · simp at h
      · simp at h
    · simp at h

/-- The names of an accepted entity are its class name and the lower-case form of it. -/
theorem parse_eq_ok {raw : String} {entity : Entity} (h : parse raw = .ok entity) :
    ∃ name, typeName? (trimChars raw.toList) = some name ∧
      entity = ⟨String.ofList name, String.ofList (lowerChars name)⟩ := by
  unfold parse at h
  split at h
  · next name hn => exact ⟨name, hn, (Except.ok.inj h).symm⟩
  · simp at h

/-- The class of an accepted entity consists of clear characters. -/
theorem clear_of_mem_typeName {raw : String} {entity : Entity} (h : parse raw = .ok entity)
    {c : Char} (hc : c ∈ entity.typeName.toList) : isClear c = true := by
  obtain ⟨name, hn, rfl⟩ := parse_eq_ok h
  obtain ⟨first, rest, u, us, -, hfirst, hrest, hu, -, rfl⟩ := typeName?_eq_some hn
  rw [String.toList_ofList, ← hu, List.mem_append] at hc
  rcases hc with hc | hc
  · rcases clear_of_mem_upperForm hc with rfl | hc
    · exact clear_of_alphanumeric (by simp [isAlphanumeric, hfirst])
    · exact hc
  · exact clear_of_identifierTail hrest hc

end Entity

/-! ## Fields -/

/-- What holds of every field that is accepted. -/
structure Field.Accepted (field : Field) : Prop where
  /-- Its name is that of a member. -/
  name : isMemberName field.name = true
  /-- Its default fits its type. -/
  default : field.modifiers.Fits field.type

theorem Field.accepted_of_parse {entry : String} {field : Field} (h : parse entry = .ok field) :
    field.Accepted := by
  unfold parse at h
  generalize (split ':' entry).map trim = parts at h
  unfold ofParts at h
  split at h
  · simp at h
  · split at h
    · simp at h
    · split at h
      · simp at h
      · next hname =>
        split at h
        · simp at h
        · split at h
          · simp at h
          · split at h
            · simp at h
            · obtain ⟨ms, hms, h⟩ := bind_eq_ok.1 h
              obtain rfl := Except.ok.inj h
              exact ⟨by simpa using hname, Modifiers.fits_foldlM (by rintro d hd; cases hd) hms⟩

theorem Field.accepted_of_mem_parseList {spec : Option String} {fields : List Field}
    (h : parseList spec = .ok fields) : ∀ field ∈ fields, field.Accepted := by
  intro field hf
  obtain ⟨entry, he⟩ := Entry.exists_of_mem_parseList h hf
  exact accepted_of_parse he

/-! ## Relationships -/

/-- What holds of every relationship that is accepted. -/
structure Relationship.Accepted (r : Relationship) : Prop where
  /-- Its name is that of a member. -/
  name : isMemberName r.name = true
  /-- Its target is the class of an accepted entity. -/
  target : ∃ raw entity, Entity.parse raw = .ok entity ∧ r.target = entity.typeName

theorem Relationship.accepted_of_parse {entry : String} {r : Relationship}
    (h : parse entry = .ok r) : r.Accepted := by
  unfold parse at h
  generalize (split ':' entry).map trim = parts at h
  unfold ofParts at h
  split at h
  · split at h
    · simp at h
    · split at h
      · simp at h
      · next hname =>
        split at h
        · simp at h
        · obtain ⟨entity, he, h⟩ := bind_eq_ok.1 h
          split at h
          · obtain rfl := Except.ok.inj h
            exact ⟨by simpa using hname, _, entity, he, rfl⟩
          · exact absurd h throw_ne_ok
  · simp at h

theorem Relationship.accepted_of_mem_parseList {spec : Option String}
    {relationships : List Relationship} (h : parseList spec = .ok relationships) :
    ∀ r ∈ relationships, r.Accepted := by
  intro r hr
  obtain ⟨entry, he⟩ := Entry.exists_of_mem_parseList h hr
  exact accepted_of_parse he

end Groundwork
