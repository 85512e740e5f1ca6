import Groundwork.Proofs.Entity
import Groundwork.Proofs.Field.Grammar

/-!
# The grammar of relationship entries

An entry of a relationship is a name, the name of an entity and a word for a cardinality. What the
name of an entity is, is told here without reference to how it is read (`Entity.IsName`). Reading an
entry accepts what the grammar has and nothing else (`Relationship.parse_wellFormed`); an entry
outside of the grammar is refused for the first thing that is wrong with it, where the number of
parts comes first and the cardinality last.
-/

namespace Groundwork

open Text

/-! ## Words -/

theorem isVocabulary_cardinalityWords : IsVocabulary Cardinality.words := ⟨by decide, by decide⟩

theorem Cardinality.ofWord?_iff {token : String} {cardinality : Cardinality} :
    ofWord? token = some cardinality ↔ Names words token cardinality :=
  lookup_lower_iff isVocabulary_cardinalityWords

theorem Cardinality.ofWord?_eq_none_iff {token : String} :
    ofWord? token = none ↔ ∀ cardinality, ¬ Names words token cardinality := by
  simp only [← ofWord?_iff]
  exact Option.eq_none_iff_forall_ne_some

/-! ## Names of entities -/

namespace Entity

/-- A text is the name of an entity: blanks at its ends left out, it begins with a letter for which
an upper-case letter can begin a class name, and goes on with letters, numbers and underscores. -/
def IsName (raw : String) : Prop :=
  ∃ c cs u us, trimChars raw.toList = c :: cs ∧ isAlphabetic c = true ∧
    (∀ d ∈ cs, isAlphanumeric d = true ∨ d = '_') ∧ upperForm c = u :: us ∧ isUppercase u = true

variable {raw : String} {entity : Entity}

theorem isIdentifierTail_iff {cs : List Char} :
    isIdentifierTail cs = true ↔ ∀ d ∈ cs, isAlphanumeric d = true ∨ d = '_' := by
  simp [isIdentifierTail]

theorem isName_of_parse (h : parse raw = .ok entity) : IsName raw := by
  obtain ⟨name, hname, -⟩ := parse_eq_ok h
  obtain ⟨c, cs, u, us, hraw, hc, hcs, hu, hup, -⟩ := typeName?_eq_some hname
  exact ⟨c, cs, u, us, hraw, hc, isIdentifierTail_iff.1 hcs, hu, hup⟩

theorem exists_parse (h : IsName raw) : ∃ entity, parse raw = .ok entity := by
  obtain ⟨c, cs, u, us, hraw, hc, hcs, hu, hup⟩ := h
  have hname := typeName?_cons hc (isIdentifierTail_iff.2 hcs) hu hup
  rw [parse, hraw, hname]
  exact ⟨_, rfl⟩

theorem parse_of_not_isName (h : ¬ IsName raw) : parse raw = .error (.invalidEntityName raw) := by
  unfold parse
  split
  · next name hname =>
    have hparse : parse raw = .ok ⟨String.ofList name, String.ofList (lowerChars name)⟩ := by
      rw [parse, hname]
    exact absurd (isName_of_parse hparse) h
  · rfl

theorem IsName.ne_empty (h : IsName raw) : raw ≠ "" := by
  rintro rfl
  obtain ⟨c, cs, u, us, hraw, -⟩ := h
  cases hraw

end Entity

/-! ## Entries -/

namespace Relationship

/-- The parts of an entry are well formed: a name, the name of an entity, and a word for a
cardinality. -/
def WellFormed (parts : List String) : Prop :=
  ∃ name target word cardinality, parts = [name, target, word] ∧ Field.IsName name ∧
    Entity.IsName target ∧ Names Cardinality.words word cardinality

/-- The parts of an entry spell a relationship, the target by the name of its entity. -/
def Spelled (parts : List String) (r : Relationship) : Prop :=
  ∃ target word entity, parts = [r.name, target, word] ∧ Field.IsName r.name ∧
    Entity.parse target = .ok entity ∧ r.target = entity.typeName ∧
    Names Cardinality.words word r.cardinality

/-- The first thing that is wrong with the parts of an entry. -/
inductive Refused (entry : String) : List String → EntryError → Prop
  /-- There are fewer or more than three parts. -/
  | malformed {parts : List String} (h : parts.length ≠ 3) :
    Refused entry parts (.malformedRelationship entry)
  /-- The name is blank. -/
  | emptyName {target word : String} : Refused entry ["", target, word] (.emptyName entry)
  /-- The name has not the shape of a name. -/
  | invalidName {name target word : String} (hne : name ≠ "") (hn : ¬ Field.IsName name) :
    Refused entry [name, target, word] (.invalidName entry name)
  /-- The target is blank. -/
  | emptyTarget {name word : String} (hn : Field.IsName name) :
    Refused entry [name, "", word] (.malformedRelationship entry)
  /-- The target is not the name of an entity. -/
  | invalidTarget {name target word : String} (hn : Field.IsName name) (hne : target ≠ "")
    (ht : ¬ Entity.IsName target) : Refused entry [name, target, word] (.invalidEntityName target)
  /-- The cardinality is no word for a cardinality. -/
  | unknownCardinality {name target word : String} (hn : Field.IsName name)
    (ht : Entity.IsName target) (hw : ∀ cardinality, ¬ Names Cardinality.words word cardinality) :
    Refused entry [name, target, word] (.unknownCardinality name word)

variable {entry name target word : String} {parts : List String} {r : Relationship}
  {entity : Entity} {cause : EntryError}

/-- After a name and the name of an entity the word for the cardinality decides. -/
theorem ofParts_of_names (hn : Field.IsName name) (ht : Entity.parse target = .ok entity) :
    ofParts entry [name, target, word] =
      match Cardinality.ofWord? word with
      | some cardinality => .ok ⟨name, entity.typeName, cardinality⟩
      | none => .error (.unknownCardinality name word) := by
  have hne := (Entity.isName_of_parse ht).ne_empty
  simp only [ofParts, hn.ne_empty, Field.isMemberName_iff.2 hn, hne, ht, Bool.not_true,
    Bool.false_eq_true, if_false]
  rfl

theorem ofParts_of_spelled (h : Spelled parts r) : ofParts entry parts = .ok r := by
  obtain ⟨target, word, entity, rfl, hn, ht, htarget, hword⟩ := h
  rw [ofParts_of_names hn ht, Cardinality.ofWord?_iff.2 hword, ← htarget]

theorem ofParts_of_refused (h : Refused entry parts cause) :
    ofParts entry parts = .error cause := by
  cases h with
  | malformed h =>
    unfold ofParts
    split
    · exact absurd rfl h
    · rfl
  | emptyName => rfl
  | invalidName hne hn =>
    rw [← Field.isMemberName_iff, Bool.not_eq_true] at hn
    simp only [ofParts, hne, hn, Bool.not_false, if_true, if_false]
  | emptyTarget hn =>
    simp only [ofParts, hn.ne_empty, Field.isMemberName_iff.2 hn, Bool.not_true,
      Bool.false_eq_true, if_false, if_true]
  | invalidTarget hn hne ht =>
    simp only [ofParts, hn.ne_empty, Field.isMemberName_iff.2 hn, hne,
      Entity.parse_of_not_isName ht, Bool.not_true, Bool.false_eq_true, if_false]
    rfl
  | unknownCardinality hn ht hw =>
    obtain ⟨entity, hentity⟩ := Entity.exists_parse ht
    rw [ofParts_of_names hn hentity, Cardinality.ofWord?_eq_none_iff.2 hw]

/-- The parts of an entry spell a relationship, or something is wrong with them first. -/
theorem spelled_or_refused (entry : String) (parts : List String) :
    (∃ r, Spelled parts r) ∨ ∃ cause, Refused entry parts cause := by
  by_cases hlength : parts.length = 3
  · obtain ⟨name, target, word, rfl⟩ := List.length_eq_three.1 hlength
    by_cases hn : Field.IsName name
    · by_cases ht : Entity.IsName target
      · obtain ⟨entity, hentity⟩ := Entity.exists_parse ht
        rcases hword : Cardinality.ofWord? word with _ | cardinality
        · exact .inr ⟨_, .unknownCardinality hn ht (Cardinality.ofWord?_eq_none_iff.1 hword)⟩
        · exact .inl ⟨⟨name, entity.typeName, cardinality⟩, target, word, entity, rfl, hn, hentity,
            rfl, Cardinality.ofWord?_iff.1 hword⟩
      · by_cases hne : target = ""
        · subst hne
          exact .inr ⟨_, .emptyTarget hn⟩
        · exact .inr ⟨_, .invalidTarget hn hne ht⟩
    · by_cases hne : name = ""
      · subst hne
        exact .inr ⟨_, .emptyName⟩
      · exact .inr ⟨_, .invalidName hne hn⟩
  · exact .inr ⟨_, .malformed hlength⟩

theorem ofParts_eq_ok_iff : ofParts entry parts = .ok r ↔ Spelled parts r := by
  refine ⟨fun h => ?_, ofParts_of_spelled⟩
  obtain ⟨r', hspelled⟩ | ⟨cause, hrefused⟩ := spelled_or_refused entry parts
  · obtain rfl := Except.ok.inj (h.symm.trans (ofParts_of_spelled hspelled))
    exact hspelled
  · cases h.symm.trans (ofParts_of_refused hrefused)

theorem ofParts_eq_error_iff : ofParts entry parts = .error cause ↔ Refused entry parts cause := by
  refine ⟨fun h => ?_, ofParts_of_refused⟩
  obtain ⟨r', hspelled⟩ | ⟨cause', hrefused⟩ := spelled_or_refused entry parts
  · cases h.symm.trans (ofParts_of_spelled hspelled)
  · obtain rfl := Except.error.inj (h.symm.trans (ofParts_of_refused hrefused))
    exact hrefused

theorem wellFormed_iff : WellFormed parts ↔ ∃ r, Spelled parts r := by
  constructor
  · rintro ⟨name, target, word, cardinality, hparts, hn, ht, hword⟩
    obtain ⟨entity, hentity⟩ := Entity.exists_parse ht
    exact ⟨⟨name, entity.typeName, cardinality⟩, target, word, entity, hparts, hn, hentity, rfl,
      hword⟩
  · rintro ⟨r, target, word, entity, hparts, hn, ht, -, hword⟩
    exact ⟨r.name, target, word, r.cardinality, hparts, hn, Entity.isName_of_parse ht, hword⟩

/-- **An entry is accepted exactly if it belongs to the grammar.** Its parts, cut at the colons and
trimmed, are then a name, the name of an entity and a word for a cardinality, in any letter case,
and the relationship that is found is the one that they spell, its target being the class name of
the entity. An entry outside of the grammar is refused for the first thing that is wrong: the number
of its parts, then the name, then the target, then the cardinality. -/
theorem parse_wellFormed (entry : String) :
    ((∃ r, parse entry = .ok r) ↔ WellFormed ((split ':' entry).map trim)) ∧
    (∀ r, parse entry = .ok r ↔ Spelled ((split ':' entry).map trim) r) ∧
    ∀ cause, parse entry = .error cause ↔ Refused entry ((split ':' entry).map trim) cause := by
  rw [parse]
  generalize (split ':' entry).map trim = parts
  refine ⟨?_, fun r => ofParts_eq_ok_iff, fun cause => ofParts_eq_error_iff⟩
  rw [wellFormed_iff]
  exact exists_congr fun r => ofParts_eq_ok_iff

end Relationship

end Groundwork
