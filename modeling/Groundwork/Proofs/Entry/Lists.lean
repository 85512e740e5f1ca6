import Groundwork.Proofs.Field.Grammar

/-!
# Lists of entries

How lists are read follows from how single entries are read: a comma between two lists puts their
members together, what is wrong with the first list is reported before anything else, and the
positions in the second one are counted on from those in the first (`Entry.ListLaws`). These laws
hold of fields and of relationships (`Entry.parseList_lawful`), since no reader of entries tells
itself that an entry is blank (`Entry.LeavesBlanks`).
-/

namespace Groundwork

open Text

namespace Entry

variable {α : Type} {parse : String → Except EntryError α} {position : Nat} {part : String}
  {parts : List String} {cause : EntryError}

section Lists

variable {a b : String} {xs ys : List α}

theorem not_blank_append_comma (a b : String) : isBlankText (a ++ "," ++ b) = false := by
  rw [Bool.eq_false_iff]
  intro h
  exact not_mem_of_blank h (by simp)

/-- A list of one entry. -/
theorem parseList_of_not_mem (h : isBlankText a = false) (hcomma : ',' ∉ a.toList) :
    parseList parse (some a) = parse (trim a) >>= fun m => pure [m] := by
  rw [parseList_of_not_blank h, split_of_not_mem hcomma]
  rcases he : parse (trim a) with cause | m
  · exact parseParts_refused h he
  · exact parseParts_spells ⟨h, he⟩

/-! ## A comma between two lists -/

theorem parseList_append_comma (a b : String) :
    parseList parse (some (a ++ "," ++ b)) = parseParts parse 1 (split ',' a ++ split ',' b) := by
  rw [parseList_of_not_blank (not_blank_append_comma a b),
    split_append (show ",".toList = [','] from rfl)]

theorem parseList_blank_comma (b : String) (h : isBlankText a = true) :
    parseList parse (some (a ++ "," ++ b)) = .error (.emptyEntry 1) := by
  rw [parseList_append_comma, split_of_not_mem (not_mem_of_blank h)]
  exact parseParts_blank h

/-- What is wrong with the first list is wrong with both together. -/
theorem parseList_refused_comma (b : String) (ha : isBlankText a = false)
    (h : parseList parse (some a) = .error cause) :
    parseList parse (some (a ++ "," ++ b)) = .error cause := by
  rw [parseList_of_not_blank ha, parseParts_error_iff] at h
  obtain ⟨good, bad, rest, hsplit, hgood, hbad⟩ := h
  rw [parseList_append_comma, parseParts_error_iff]
  refine ⟨good, bad, rest ++ split ',' b, ?_, hgood, hbad⟩
  rw [hsplit, List.append_assoc, List.cons_append]

/-- How many entries a list has, blank ones included. -/
def entries (a : String) : Nat := a.toList.count ',' + 1

/-- After a list that is accepted the second one is read, from the next position on. -/
theorem parseList_accepted_comma (b : String) (ha : isBlankText a = false)
    (h : parseList parse (some a) = .ok xs) :
    parseList parse (some (a ++ "," ++ b)) =
      parseParts parse (entries a + 1) (split ',' b) >>= fun ys => pure (xs ++ ys) := by
  rw [parseList_of_not_blank ha, parseParts_ok_iff] at h
  rw [parseList_append_comma, parseParts_append h, length_split, Nat.add_comm 1, entries]

theorem parseList_accepted_comma_blank (ha : isBlankText a = false)
    (h : parseList parse (some a) = .ok xs) (hb : isBlankText b = true) :
    parseList parse (some (a ++ "," ++ b)) = .error (.emptyEntry (entries a + 1)) := by
  rw [parseList_accepted_comma b ha h, split_of_not_mem (not_mem_of_blank hb),
    parseParts_blank hb]
  rfl

theorem parseList_accepted_comma_accepted (ha : isBlankText a = false)
    (h : parseList parse (some a) = .ok xs) (hb : isBlankText b = false)
    (h' : parseList parse (some b) = .ok ys) :
    parseList parse (some (a ++ "," ++ b)) = .ok (xs ++ ys) := by
  rw [parseList_of_not_blank hb, parseParts_ok_iff] at h'
  rw [parseList_accepted_comma b ha h, parseParts_ok_iff.2 h']
  rfl

end Lists

/-! ## Positions -/

/-- The cause for which a list is refused, when `n` entries are put in front of it. -/
def later (n : Nat) : EntryError → EntryError
  | .emptyEntry position => .emptyEntry (n + position)
  | cause => cause

/-- A reader of entries does not itself tell that an entry is blank. -/
def LeavesBlanks (parse : String → Except EntryError α) : Prop :=
  ∀ entry position, parse entry ≠ .error (.emptyEntry position)

theorem Refused.later (hparse : LeavesBlanks parse) (n : Nat)
    (h : Refused parse position part cause) :
    Refused parse (n + position) part (later n cause) := by
  cases h with
  | blank h => exact .blank h
  | entry h he =>
    have hcause : Entry.later n cause = cause := by
      cases cause with
      | emptyEntry position => exact absurd he (hparse _ _)
      | _ => rfl
    rw [hcause]
    exact .entry h he

theorem parseParts_later (hparse : LeavesBlanks parse) (n : Nat)
    (h : parseParts parse position parts = .error cause) :
    parseParts parse (n + position) parts = .error (later n cause) := by
  rw [parseParts_error_iff] at h ⊢
  obtain ⟨good, bad, rest, hparts, hgood, hbad⟩ := h
  refine ⟨good, bad, rest, hparts, hgood, ?_⟩
  rw [Nat.add_assoc]
  exact hbad.later hparse n

theorem parseList_accepted_comma_refused (hparse : LeavesBlanks parse) {a b : String}
    {xs : List α} (ha : isBlankText a = false) (h : parseList parse (some a) = .ok xs)
    (hb : isBlankText b = false) (h' : parseList parse (some b) = .error cause) :
    parseList parse (some (a ++ "," ++ b)) = .error (later (entries a) cause) := by
  rw [parseList_of_not_blank hb] at h'
  rw [parseList_accepted_comma b ha h, parseParts_later hparse (entries a) h']
  rfl

/-! ## Laws -/

/-- How the reading of lists follows from the reading of entries. -/
structure ListLaws (parse : String → Except EntryError α)
    (parseList : Option String → Except EntryError (List α)) : Prop where
  /-- Where there is no list, there are no members. -/
  missing : parseList none = .ok []
  /-- A blank list has no members. -/
  blank : ∀ a, isBlankText a = true → parseList (some a) = .ok []
  /-- A list without commas is read as an entry, blanks at its ends left out. -/
  single : ∀ a, isBlankText a = false → ',' ∉ a.toList →
    parseList (some a) = parse (trim a) >>= fun m => pure [m]
  /-- In front of a comma there must be an entry. -/
  blankFirst : ∀ a b, isBlankText a = true →
    parseList (some (a ++ "," ++ b)) = .error (.emptyEntry 1)
  /-- What is wrong with the first of two lists is reported, whatever the second one is. -/
  refusedFirst : ∀ a b cause, isBlankText a = false → parseList (some a) = .error cause →
    parseList (some (a ++ "," ++ b)) = .error cause
  /-- After a comma there must be an entry. -/
  blankSecond : ∀ a b xs, isBlankText a = false → parseList (some a) = .ok xs →
    isBlankText b = true → parseList (some (a ++ "," ++ b)) = .error (.emptyEntry (entries a + 1))
  /-- The members of two lists are put together in order. -/
  accepted : ∀ a b xs ys, isBlankText a = false → parseList (some a) = .ok xs →
    isBlankText b = false → parseList (some b) = .ok ys →
    parseList (some (a ++ "," ++ b)) = .ok (xs ++ ys)
  /-- A blank entry of the second list is counted on from the entries of the first. -/
  blankLater : ∀ a b xs position, isBlankText a = false → parseList (some a) = .ok xs →
    isBlankText b = false → parseList (some b) = .error (.emptyEntry position) →
    parseList (some (a ++ "," ++ b)) = .error (.emptyEntry (entries a + position))
  /-- Anything else that is wrong with the second list is reported as it is. -/
  refusedLater : ∀ a b xs cause, isBlankText a = false → parseList (some a) = .ok xs →
    isBlankText b = false → parseList (some b) = .error cause →
    (∀ position, cause ≠ .emptyEntry position) →
    parseList (some (a ++ "," ++ b)) = .error cause
  /-- The members are those that the parts between the commas spell, one by one. -/
  members : ∀ a xs, isBlankText a = false →
    (parseList (some a) = .ok xs ↔ List.Forall₂ (Spells parse) (split ',' a) xs)
  /-- A list is refused for the first part that does not spell a member. -/
  first : ∀ a cause, isBlankText a = false →
    (parseList (some a) = .error cause ↔ ∃ good bad rest, split ',' a = good ++ bad :: rest ∧
      (∀ part ∈ good, ∃ m, Spells parse part m) ∧
      Refused parse (1 + good.length) bad cause)

theorem listLaws (hparse : LeavesBlanks parse) : ListLaws parse (parseList parse) where
  missing := rfl
  blank _ ha := parseList_of_blank ha
  single _ ha hcomma := parseList_of_not_mem ha hcomma
  blankFirst _ b ha := parseList_blank_comma b ha
  refusedFirst _ b _ ha h := parseList_refused_comma b ha h
  blankSecond _ _ _ ha h hb := parseList_accepted_comma_blank ha h hb
  accepted _ _ _ _ ha h hb h' := parseList_accepted_comma_accepted ha h hb h'
  blankLater _ _ _ _ ha h hb h' := parseList_accepted_comma_refused hparse ha h hb h'
  refusedLater a b xs cause ha h hb h' hcause := by
    have hrefused := parseList_accepted_comma_refused hparse ha h hb h'
    cases cause with
    | emptyEntry position => exact absurd rfl (hcause position)
    | _ => exact hrefused
  members _ _ ha := by rw [parseList_of_not_blank ha, parseParts_ok_iff]
  first _ _ ha := by rw [parseList_of_not_blank ha, parseParts_error_iff]

end Entry

/-! ## Fields and relationships -/

theorem Field.leavesBlanks : Entry.LeavesBlanks Field.parse := by
  intro entry position h
  have hne : (split ':' entry).map trim ≠ [] := by
    rw [ne_eq, List.map_eq_nil_iff]
    exact split_ne_nil ':' entry
  have hrefused := refused_of_ofParts hne h
  generalize (split ':' entry).map trim = parts at hrefused
  cases hrefused with
  | modifier _ _ _ hbad => cases hbad

theorem Entity.parse_ne_emptyEntry (raw : String) (position : Nat) :
    parse raw ≠ .error (.emptyEntry position) := by
  unfold parse
  split <;> simp

theorem Relationship.leavesBlanks : Entry.LeavesBlanks Relationship.parse := by
  intro entry position h
  unfold parse at h
  generalize (split ':' entry).map trim = parts at h
  unfold ofParts at h
  split at h
  · split_ifs at h
    · cases h
    · cases h
    · cases h
    · obtain h | ⟨entity, -, h⟩ := bind_eq_error.1 h
      · exact Entity.parse_ne_emptyEntry _ _ h
      · split at h <;> cases h
  · cases h

/-- **Lists and commas.** Fields and relationships are read from lists by the same laws: the members
of two lists with a comma between them are those of the first and then those of the second, and the
first entry that is blank or refused is reported, a blank one with its position in the whole. -/
theorem Entry.parseList_lawful :
    Entry.ListLaws Field.parse Field.parseList ∧
      Entry.ListLaws Relationship.parse Relationship.parseList :=
  ⟨Entry.listLaws Field.leavesBlanks, Entry.listLaws Relationship.leavesBlanks⟩

/-- A blank list is no list of blank entries: of two blank lists with a comma between them the first
entry is missing. -/
example : Field.parseList (some "") = .ok [] ∧
    Field.parseList (some ",") = .error (.emptyEntry 1) ∧
    Field.parseList (some "a:int, ,b") = .error (.emptyEntry 2) := by
  decide +kernel

end Groundwork
