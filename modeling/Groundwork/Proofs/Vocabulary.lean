import Groundwork.Proofs.Relationship

/-!
# Keywords

The words for types, cardinalities, modifiers and truth values are compared by the lower-case form
of what has been typed, the word `now` by the case of ASCII letters alone. Both tell the same
(`Text.sameLetters_iff`), although there are characters outside of ASCII whose lower-case form lies
inside of it: what is recognized is a text of ASCII that spells a word of the vocabulary, and it
stands for what the word stands for (`Text.Recognizes`). The main statement is
`keywords_recognized`.
-/

namespace Groundwork

namespace Text

/-! ## The case of ASCII letters -/

/-- Every character of a text belongs to ASCII. -/
def IsAscii (s : String) : Prop := ∀ c ∈ s.toList, c.toNat < 128

/-- Two texts are the same but for the case of ASCII letters. -/
def SameLetters (s t : String) : Prop := s.toList.map asciiLower = t.toList.map asciiLower

/-- A word that is written in lower case. -/
def IsLower (word : String) : Prop := word.toList.map asciiLower = word.toList

instance : DecidablePred IsLower := fun word =>
  inferInstanceAs (Decidable (word.toList.map asciiLower = word.toList))

theorem respells_iff {word token : String} (h : IsLower word) :
    Respells word token ↔ SameLetters token word := by
  rw [Respells, SameLetters, h]

theorem SameLetters.ascii {word token : String} (h : SameLetters token word) (hl : IsLower word)
    (hp : IsPlain word) : IsAscii token :=
  ((respells_iff hl).2 h).ascii hp

/-- The lower-case form of a text is a given plain word exactly if the text is that word but for the
case of ASCII letters. -/
theorem sameLetters_iff {word token : String} (hl : IsLower word) (hp : IsPlain word) :
    lower token = word ↔ SameLetters token word :=
  (lower_eq_iff hp).trans (respells_iff hl)

/-! ## Recognizing words -/

section

variable {α : Type} {words : List (String × α)} {read : String → Option α}

/-- A reader recognizes the words of a list: it reads a token just in case the token is a text of
ASCII and one of the words but for the case of its letters, and then as what the word stands
for. -/
def Recognizes (words : List (String × α)) (read : String → Option α) : Prop :=
  ∀ token a, read token = some a ↔
    IsAscii token ∧ ∃ word, (word, a) ∈ words ∧ SameLetters token word

/-- A reader that finds the words that a token spells recognizes them, if they are plain words in
lower case. -/
theorem recognizes_of_names (hl : ∀ entry ∈ words, IsLower entry.1)
    (hp : ∀ entry ∈ words, IsPlain entry.1)
    (h : ∀ token a, read token = some a ↔ Names words token a) : Recognizes words read := by
  intro token a
  rw [h]
  constructor
  · rintro ⟨word, hmem, hspelled⟩
    have hsame := (respells_iff (hl _ hmem)).1 hspelled
    exact ⟨hsame.ascii (hl _ hmem) (hp _ hmem), word, hmem, hsame⟩
  · rintro ⟨-, word, hmem, hsame⟩
    exact ⟨word, hmem, (respells_iff (hl _ hmem)).2 hsame⟩

end

end Text

open Text

/-! ## The vocabularies -/

/-- The words for truth values stand for defaults of a column of that type. -/
theorem Default.ofLiteral?_boolean_iff {token : String} {d : Default} :
    ofLiteral? .boolean token = some d ↔
      Names (booleanWords.map fun entry => (entry.1, boolean entry.2)) token d := by
  rw [ofLiteral?_iff, Spelled]
  constructor
  · rintro ⟨b, ⟨word, hmem, hspelled⟩, rfl⟩
    exact ⟨word, List.mem_map.2 ⟨(word, b), hmem, rfl⟩, hspelled⟩
  · rintro ⟨word, hmem, hspelled⟩
    obtain ⟨⟨word', b⟩, hb, heq⟩ := List.mem_map.1 hmem
    cases heq
    exact ⟨b, ⟨word', hb, hspelled⟩, rfl⟩

theorem Default.ofLiteral?_now_iff {type : FieldType} (htype : type = .dateTime ∨ type = .date)
    {token : String} {d : Default} :
    ofLiteral? type token = some d ↔ Names [("now", now)] token d := by
  have hspelled : Spelled type token d ↔ Respells "now" token ∧ d = .now := by
    obtain rfl | rfl := htype <;> exact Iff.rfl
  rw [ofLiteral?_iff, hspelled]
  constructor
  · rintro ⟨h, rfl⟩
    exact ⟨"now", List.mem_singleton_self _, h⟩
  · rintro ⟨word, hmem, h⟩
    cases List.mem_singleton.1 hmem
    exact ⟨h, rfl⟩

/-- A token is an unknown modifier if it names no modifier, neither alone nor in front of a
literal, where only the word for the default can stand. -/
theorem Modifiers.unknown_iff {field : String} {type : FieldType} {ms : Modifiers}
    {token : String} :
    add field type ms token = .error (.unknownModifier field token) ↔
      (∀ keyword, ¬ Names words token keyword) ∧
        ∀ word literal, Assigns token word literal → ¬ Respells "default" word := by
  rw [add_error_iff]
  constructor
  · intro h
    cases h with
    | unknownModifier h hd =>
      refine ⟨fun keyword hk => h ?_, hd⟩
      cases keyword
      case nullable => exact .inl hk
      case unique => exact .inr (.inl hk)
      case index => exact .inr (.inr (.inl hk))
      case default => exact .inr (.inr (.inr ⟨.implicit, .inl ⟨names_default.1 hk, rfl⟩⟩))
  · rintro ⟨hwords, hd⟩
    refine .unknownModifier ?_ hd
    rintro (hk | hk | hk | ⟨d, ⟨hk, -⟩ | ⟨word, literal, hassigns, hk, -⟩⟩)
    · exact hwords _ hk
    · exact hwords _ hk
    · exact hwords _ hk
    · exact hwords _ (names_default.2 hk)
    · exact hd word literal hassigns hk

/-- The words that are compared by their lower-case form, and the one that is compared by the case
of ASCII letters. -/
def keywords : List String :=
  FieldType.words.map Prod.fst ++ Cardinality.words.map Prod.fst ++ Modifiers.words.map Prod.fst ++
    Default.booleanWords.map Prod.fst ++ ["now"]

/-- **Keywords are recognized by the case of ASCII letters alone.** A token names a type, a
cardinality, a modifier, a truth value or the present moment just in case it is a text of ASCII and
one of the listed words but for the case of its letters, and then it stands for what that word
stands for. A modifier is refused as unknown just in case no word is recognized in it. For every
keyword, and likewise for `now`, comparing the lower-case form of a token tells the same as
comparing without regard to the case of ASCII letters. -/
theorem keywords_recognized :
    Recognizes [("string", FieldType.string), ("str", .string), ("text", .text),
        ("int", .integer), ("integer", .integer), ("float", .float), ("decimal", .decimal),
        ("numeric", .decimal), ("bool", .boolean), ("boolean", .boolean),
        ("datetime", .dateTime), ("date", .date), ("json", .json)] FieldType.ofWord? ∧
      Recognizes [("one", Cardinality.one), ("many", .many)] Cardinality.ofWord? ∧
      Recognizes [("nullable", Modifiers.Keyword.nullable), ("optional", .nullable),
        ("unique", .unique), ("index", .index), ("indexed", .index), ("default", .default)]
        Modifiers.Keyword.ofWord? ∧
      (∀ field type ms token,
        Modifiers.add field type ms token = .error (.unknownModifier field token) ↔
          (∀ keyword, Modifiers.Keyword.ofWord? token ≠ some keyword) ∧
            ∀ word literal, Modifiers.Assigns token word literal →
              ¬ (IsAscii word ∧ SameLetters word "default")) ∧
      Recognizes [("true", Default.boolean true), ("1", .boolean true),
        ("false", .boolean false), ("0", .boolean false)] (Default.ofLiteral? .boolean) ∧
      Recognizes [("now", Default.now)] (Default.ofLiteral? .dateTime) ∧
      Recognizes [("now", Default.now)] (Default.ofLiteral? .date) ∧
      ∀ word ∈ keywords, ∀ token, lower token = word ↔ SameLetters token word := by
  refine ⟨recognizes_of_names (by decide) (by decide) fun _ _ => FieldType.ofWord?_iff,
    recognizes_of_names (by decide) (by decide) fun _ _ => Cardinality.ofWord?_iff,
    recognizes_of_names (by decide) (by decide) fun _ _ => Modifiers.Keyword.ofWord?_iff,
    fun field type ms token => ?_,
    recognizes_of_names (by decide) (by decide) fun _ _ => Default.ofLiteral?_boolean_iff,
    recognizes_of_names (by decide) (by decide) fun _ _ => Default.ofLiteral?_now_iff (.inl rfl),
    recognizes_of_names (by decide) (by decide) fun _ _ => Default.ofLiteral?_now_iff (.inr rfl),
    fun word hword token => ?_⟩
  · have hdefault (word : String) :
        Respells "default" word ↔ IsAscii word ∧ SameLetters word "default" := by
      rw [respells_iff (by decide)]
      exact ⟨fun h => ⟨h.ascii (by decide) (by decide), h⟩, And.right⟩
    simp only [Modifiers.unknown_iff, hdefault, ne_eq, Modifiers.Keyword.ofWord?_iff]
  · have hl : ∀ word ∈ keywords, IsLower word := by decide
    have hp : ∀ word ∈ keywords, IsPlain word := by decide
    exact sameLetters_iff (hl word hword) (hp word hword)

/-- The lower-case form of a capital `i` with a dot begins with an `i`, but goes on with the dot. -/
example : lower "\u0130nt" = "i\u0307nt" ∧ FieldType.ofWord? "\u0130nt" = none ∧
    FieldType.ofWord? "iNT" = some .integer := by
  decide +kernel

end Groundwork
