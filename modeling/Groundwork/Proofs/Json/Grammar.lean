import Groundwork.Proofs.Json.Tokens

/-!
# The grammar of documents

A document is read just as its grammar says (`ofChars?_iff`): every document is read, with the value
that it spells, and nothing else is. The grammar derives tokens from values, from the items of lists
and from the members of objects (`Derives`), with a bound on how deep lists and objects nest; the
tokens are spelled with gaps between them.
-/

namespace Groundwork.Json

/-- What tokens are derived from. -/
inductive Phrase
  /-- A value. -/
  | value (value : Json)
  /-- The items of a list, of which there is one at least. -/
  | items (items : List Json)
  /-- The members of an object, of which there is one at least. -/
  | members (members : List (String × Json))

/-- Tokens are derived from a phrase in which lists and objects nest at most `depth` deep. -/
inductive Derives : (depth : Nat) → Phrase → List Token → Prop
  | scalar {depth : Nat} (value : Json) : Derives depth (.value value) [.scalar value]
  | noItems {depth : Nat} : Derives (depth + 1) (.value (.list [])) [.openList, .closeList]
  | list {depth : Nat} {items : List Json} {ts : List Token} (h : Derives depth (.items items) ts) :
    Derives (depth + 1) (.value (.list items)) (.openList :: (ts ++ [.closeList]))
  | noMembers {depth : Nat} :
    Derives (depth + 1) (.value (.object [])) [.openObject, .closeObject]
  | object {depth : Nat} {members : List (String × Json)} {ts : List Token}
    (h : Derives depth (.members members) ts) :
    Derives (depth + 1) (.value (.object members)) (.openObject :: (ts ++ [.closeObject]))
  | lastItem {depth : Nat} {item : Json} {ts : List Token} (h : Derives depth (.value item) ts) :
    Derives depth (.items [item]) ts
  | item {depth : Nat} {item : Json} {items : List Json} {ts us : List Token}
    (h : Derives depth (.value item) ts) (hs : Derives depth (.items items) us) :
    Derives depth (.items (item :: items)) (ts ++ .comma :: us)
  | lastMember {depth : Nat} (name : String) {value : Json} {ts : List Token}
    (h : Derives depth (.value value) ts) :
    Derives depth (.members [(name, value)]) (.scalar (.text name) :: .colon :: ts)
  | member {depth : Nat} (name : String) {value : Json} {members : List (String × Json)}
    {ts us : List Token} (h : Derives depth (.value value) ts)
    (hs : Derives depth (.members members) us) :
    Derives depth (.members ((name, value) :: members))
      (.scalar (.text name) :: .colon :: (ts ++ .comma :: us))

/-- A text is a document that spells a value. -/
def IsDocument (cs : List Char) (value : Json) : Prop :=
  ∃ ts, Derives nestingLimit (.value value) ts ∧ Token.SpellsAll ts cs

/-! ## Tokens that are derived -/

namespace Token

variable {t : Token} {ts us : List Token}

theorem Apart.cons (ht : t.isScalar = false) (hts : Apart ts) : Apart (t :: ts) :=
  List.isChain_cons.2 ⟨fun _ _ hs => absurd hs.1 (by simp [ht]), hts⟩

theorem Apart.append (ht : t.isScalar = false) (hts : Apart ts) (hus : Apart us) :
    Apart (ts ++ t :: us) := by
  refine List.isChain_append.2 ⟨hts, hus.cons ht, ?_⟩
  rintro u - _ ⟨⟩ ⟨-, hs⟩
  rw [ht] at hs
  cases hs

end Token

variable {depth : Nat} {phrase : Phrase} {ts : List Token}

/-- In what is derived no two scalars stand side by side. -/
theorem Derives.apart (h : Derives depth phrase ts) : Token.Apart ts := by
  induction h with
  | scalar => exact .singleton _
  | noItems | noMembers => exact Token.Apart.cons rfl (.singleton _)
  | list _ ih => exact Token.Apart.cons rfl (ih.append rfl .nil)
  | object _ ih => exact Token.Apart.cons rfl (ih.append rfl .nil)
  | lastItem _ ih => exact ih
  | item _ _ ih ihs => exact ih.append rfl ihs
  | lastMember name _ ih => exact @Token.Apart.append .colon [_] _ rfl (.singleton _) ih
  | member name _ _ ih ihs =>
    exact @Token.Apart.append .colon [_] _ rfl (.singleton _) (ih.append rfl ihs)

/-- What is derived does not begin with the end of a list or an object. -/
theorem Derives.begins (h : Derives depth phrase ts) :
    ∃ t us, ts = t :: us ∧ t ≠ .closeList ∧ t ≠ .closeObject := by
  induction h with
  | lastItem _ ih => exact ih
  | item _ _ ih _ =>
    obtain ⟨t, us, rfl, ht⟩ := ih
    exact ⟨t, _, rfl, ht⟩
  | _ => exact ⟨_, _, rfl, nofun, nofun⟩

/-! ## What the readers take -/

variable {rest : List Token}

/-- Items are a value that ends the list, or a value and, after a comma, more items. -/
theorem items?_eq_some_iff {items : List Json} :
    (∃ h, items? depth ts = some (items, ⟨rest, h⟩)) ↔
      (∃ item h, value? depth ts = some (item, ⟨.closeList :: rest, h⟩) ∧ items = [item]) ∨
      ∃ item items' us h h', value? depth ts = some (item, ⟨.comma :: us, h⟩) ∧
        items? depth us = some (items', ⟨rest, h'⟩) ∧ items = item :: items' := by
  constructor
  · rintro ⟨h, hitems⟩
    rw [items?] at hitems
    split at hitems
    · next item _ hlast hitem =>
      cases hitems
      exact .inl ⟨item, hlast, hitem, rfl⟩
    · next item us hlt hitem =>
      obtain ⟨⟨items', _, h'⟩, hitems', hitems⟩ := Option.bind_eq_some_iff.1 hitems
      cases hitems
      exact .inr ⟨item, items', us, hlt, h', hitem, hitems', rfl⟩
    · cases hitems
  · rintro (⟨item, h, hitem, rfl⟩ | ⟨item, items', us, h, h', hitem, hitems', rfl⟩)
    · refine ⟨Nat.lt_of_succ_lt h, ?_⟩
      rw [items?, hitem]
    · refine ⟨h'.trans (Nat.lt_of_succ_lt h), ?_⟩
      rw [items?, hitem]
      simp only [hitems']
      rfl

/-- Members are a name and a value that ends the object, or a name, a value and, after a comma, more
members. -/
theorem members?_eq_some_iff {members : List (String × Json)} :
    (∃ h, members? depth ts = some (members, ⟨rest, h⟩)) ↔
      ∃ name us, ts = .scalar (.text name) :: .colon :: us ∧
        ((∃ value h, value? depth us = some (value, ⟨.closeObject :: rest, h⟩) ∧
          members = [(name, value)]) ∨
        ∃ value members' vs h h', value? depth us = some (value, ⟨.comma :: vs, h⟩) ∧
          members? depth vs = some (members', ⟨rest, h'⟩) ∧
          members = (name, value) :: members') := by
  constructor
  · rintro ⟨h, hmembers⟩
    unfold members? at hmembers
    split at hmembers
    · next name us =>
      refine ⟨name, us, rfl, ?_⟩
      split at hmembers
      · next value _ hlast hvalue =>
        cases hmembers
        exact .inl ⟨value, hlast, hvalue, rfl⟩
      · next value vs hlt hvalue =>
        obtain ⟨⟨members', _, h'⟩, hmembers', hmembers⟩ := Option.bind_eq_some_iff.1 hmembers
        cases hmembers
        exact .inr ⟨value, members', vs, hlt, h', hvalue, hmembers', rfl⟩
      · cases hmembers
    · cases hmembers
  · rintro ⟨name, us, rfl, ⟨value, h, hvalue, rfl⟩ |
      ⟨value, members', vs, h, h', hvalue, hmembers', rfl⟩⟩
    · refine ⟨Nat.lt_succ_of_lt (Nat.lt_succ_of_lt (Nat.lt_of_succ_lt h)), ?_⟩
      rw [members?.eq_1, hvalue]
    · have hlt := h'.trans (Nat.lt_of_succ_lt h)
      refine ⟨Nat.lt_succ_of_lt (Nat.lt_succ_of_lt hlt), ?_⟩
      rw [members?.eq_1, hvalue]
      simp only [hmembers']
      rfl

/-! ## What is read is derived -/

/-- A value that is read is derived from the tokens that are taken for it. -/
def ValueSound (depth : Nat) (ts : List Token) : Prop :=
  ∀ value rest h, value? depth ts = some (value, ⟨rest, h⟩) →
    ∃ us, Derives depth (.value value) us ∧ ts = us ++ rest

/-- Members that are read are derived from the tokens in front of the end of the object. -/
def MembersSound (depth : Nat) (ts : List Token) : Prop :=
  ∀ members rest h, members? depth ts = some (members, ⟨rest, h⟩) →
    ∃ us, Derives depth (.members members) us ∧ ts = us ++ .closeObject :: rest

/-- Items that are read are derived from the tokens in front of the end of the list. -/
def ItemsSound (depth : Nat) (ts : List Token) : Prop :=
  ∀ items rest h, items? depth ts = some (items, ⟨rest, h⟩) →
    ∃ us, Derives depth (.items items) us ∧ ts = us ++ .closeList :: rest

/-- Items are derived where their values are and where the items after a comma are. -/
theorem itemsSound_of_lt (hvalue : ValueSound depth ts)
    (ih : ∀ us, us.length < ts.length → ItemsSound depth us) : ItemsSound depth ts := by
  intro items rest h hitems
  obtain ⟨item, _, hitem, rfl⟩ | ⟨item, items', us, hlt, _, hitem, hitems', rfl⟩ :=
    items?_eq_some_iff.1 ⟨h, hitems⟩
  · obtain ⟨vs, hvs, rfl⟩ := hvalue _ _ _ hitem
    exact ⟨vs, .lastItem hvs, rfl⟩
  · obtain ⟨vs, hvs, rfl⟩ := hvalue _ _ _ hitem
    obtain ⟨ws, hws, rfl⟩ := ih us (Nat.lt_of_succ_lt hlt) _ _ _ hitems'
    exact ⟨_, .item hvs hws, by simp⟩

/-- Members are derived where their values and the members after a comma are. -/
theorem membersSound_of_lt (hvalue : ∀ us, us.length < ts.length → ValueSound depth us)
    (ih : ∀ us, us.length < ts.length → MembersSound depth us) : MembersSound depth ts := by
  intro members rest h hmembers
  obtain ⟨name, us, rfl, hread⟩ := members?_eq_some_iff.1 ⟨h, hmembers⟩
  have hus : us.length < (Token.scalar (.text name) :: .colon :: us).length :=
    Nat.lt_succ_of_lt (Nat.lt_succ_self _)
  obtain ⟨value, _, hread, rfl⟩ | ⟨value, members', vs, hlt, _, hread, hmembers', rfl⟩ := hread
  · obtain ⟨ws, hws, rfl⟩ := hvalue us hus _ _ _ hread
    exact ⟨_, .lastMember name hws, rfl⟩
  · obtain ⟨ws, hws, rfl⟩ := hvalue us hus _ _ _ hread
    obtain ⟨xs, hxs, rfl⟩ := ih vs ((Nat.lt_of_succ_lt hlt).trans hus) _ _ _ hmembers'
    exact ⟨_, .member name hws hxs, by simp⟩

/-- A value is derived where the items and the members of the next depth are. -/
theorem valueSound_of_lt
    (hitems : ∀ depth us, us.length < ts.length → ItemsSound depth us)
    (hmembers : ∀ depth us, us.length < ts.length → MembersSound depth us) :
    ValueSound depth ts := by
  intro value rest h hvalue
  unfold value? at hvalue
  split at hvalue
  · cases hvalue
    exact ⟨_, .scalar value, rfl⟩
  · cases hvalue
    exact ⟨_, .noItems, rfl⟩
  · obtain ⟨⟨items, _, hrest⟩, hread, hvalue⟩ := Option.bind_eq_some_iff.1 hvalue
    cases hvalue
    obtain ⟨us, hus, rfl⟩ := hitems _ _ (Nat.lt_succ_self _) _ _ _ hread
    exact ⟨_, .list hus, by simp⟩
  · cases hvalue
    exact ⟨_, .noMembers, rfl⟩
  · obtain ⟨⟨members, _, hrest⟩, hread, hvalue⟩ := Option.bind_eq_some_iff.1 hvalue
    cases hvalue
    obtain ⟨us, hus, rfl⟩ := hmembers _ _ (Nat.lt_succ_self _) _ _ _ hread
    exact ⟨_, .object hus, by simp⟩
  · cases hvalue

/-- What the three readers take is derived. -/
theorem readers_sound (ts : List Token) :
    ∀ depth, ValueSound depth ts ∧ MembersSound depth ts ∧ ItemsSound depth ts := by
  induction hn : ts.length using Nat.strong_induction_on generalizing ts with
  | h n ih =>
    subst hn
    intro depth
    -- The readers of items and members begin with a value, so values come first.
    have hvalue : ValueSound depth ts :=
      valueSound_of_lt (fun depth us hus => (ih _ hus us rfl depth).2.2)
        fun depth us hus => (ih _ hus us rfl depth).2.1
    exact ⟨hvalue,
      membersSound_of_lt (fun us hus => (ih _ hus us rfl depth).1) fun us hus =>
        (ih _ hus us rfl depth).2.1,
      itemsSound_of_lt hvalue fun us hus => (ih _ hus us rfl depth).2.2⟩

/-! ## What is derived is read -/

/-- A phrase is read from tokens, whatever follows them. -/
def Phrase.IsRead (depth : Nat) (ts : List Token) : Phrase → Prop
  | value v => ∀ rest, ∃ h, value? depth (ts ++ rest) = some (v, ⟨rest, h⟩)
  | items vs => ∀ rest, ∃ h, items? depth (ts ++ .closeList :: rest) = some (vs, ⟨rest, h⟩)
  | members vs => ∀ rest, ∃ h, members? depth (ts ++ .closeObject :: rest) = some (vs, ⟨rest, h⟩)

theorem Derives.isRead (h : Derives depth phrase ts) : phrase.IsRead depth ts := by
  induction h with
  | scalar value =>
    intro rest
    exact ⟨_, value?.eq_1 _ _ _⟩
  | noItems =>
    intro rest
    exact ⟨_, value?.eq_2 _ _⟩
  | noMembers =>
    intro rest
    exact ⟨_, value?.eq_4 _ _⟩
  | list h ih =>
    intro rest
    obtain ⟨hrest, hread⟩ := ih rest
    obtain ⟨t, us, rfl, ht, -⟩ := h.begins
    have hne : ∀ vs, t :: us ++ .closeList :: rest = .closeList :: vs → False :=
      fun vs he => ht (List.cons.inj he).1
    rw [List.cons_append, List.append_assoc, List.singleton_append]
    refine ⟨Nat.lt_succ_of_lt hrest, (value?.eq_3 _ _ hne).trans ?_⟩
    rw [hread]
    rfl
  | object h ih =>
    intro rest
    obtain ⟨hrest, hread⟩ := ih rest
    obtain ⟨t, us, rfl, -, ht⟩ := h.begins
    have hne : ∀ vs, t :: us ++ .closeObject :: rest = .closeObject :: vs → False :=
      fun vs he => ht (List.cons.inj he).1
    rw [List.cons_append, List.append_assoc, List.singleton_append]
    refine ⟨Nat.lt_succ_of_lt hrest, (value?.eq_5 _ _ hne).trans ?_⟩
    rw [hread]
    rfl
  | lastItem _ ih =>
    intro rest
    obtain ⟨hlt, hread⟩ := ih (.closeList :: rest)
    exact items?_eq_some_iff.2 (.inl ⟨_, hlt, hread, rfl⟩)
  | item _ _ ih ihs =>
    intro rest
    obtain ⟨h', hreads⟩ := ihs rest
    obtain ⟨h, hread⟩ := ih (.comma :: (_ ++ .closeList :: rest))
    rw [List.append_assoc, List.cons_append]
    exact items?_eq_some_iff.2 (.inr ⟨_, _, _, h, h', hread, hreads, rfl⟩)
  | lastMember name _ ih =>
    intro rest
    obtain ⟨h, hread⟩ := ih (.closeObject :: rest)
    exact members?_eq_some_iff.2 ⟨name, _, rfl, .inl ⟨_, h, hread, rfl⟩⟩
  | member name _ _ ih ihs =>
    intro rest
    obtain ⟨h', hreads⟩ := ihs rest
    obtain ⟨h, hread⟩ := ih (.comma :: (_ ++ .closeObject :: rest))
    rw [List.cons_append, List.cons_append, List.append_assoc, List.cons_append]
    exact members?_eq_some_iff.2 ⟨name, _, rfl, .inr ⟨_, _, _, h, h', hread, hreads, rfl⟩⟩

/-! ## Documents -/

/-- **Reading is deciding the grammar.** A text is read as a value just if it is a document that
spells the value. -/
theorem ofChars?_iff {cs : List Char} {value : Json} :
    ofChars? cs = some value ↔ IsDocument cs value := by
  constructor
  · intro h
    obtain ⟨ts, hts, h⟩ := Option.bind_eq_some_iff.1 h
    split at h
    · next hvalue =>
      cases h
      obtain ⟨us, hus, rfl⟩ := (readers_sound _ _).1 _ _ _ hvalue
      rw [List.append_nil] at hts
      exact ⟨us, hus, Token.spellsAll_of_ofChars? hts⟩
    · cases h
  · rintro ⟨ts, hts, hcs⟩
    have hvalue := hts.isRead []
    rw [List.append_nil] at hvalue
    obtain ⟨hrest, hread⟩ := hvalue
    simp only [ofChars?, Token.ofChars?_of_spellsAll hcs hts.apart, Option.bind_eq_bind,
      Option.bind_some, hread]

theorem IsDocument.exists_not_blank {cs : List Char} {value : Json} (h : IsDocument cs value) :
    ∃ c ∈ cs, Text.isBlank c = false := by
  obtain ⟨ts, hts, hcs⟩ := h
  obtain ⟨t, us, rfl, -⟩ := hts.begins
  exact hcs.exists_not_blank

end Groundwork.Json
