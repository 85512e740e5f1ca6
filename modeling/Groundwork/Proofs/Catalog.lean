import Groundwork.Catalog
import Groundwork.Proofs.Text.Replace

/-!
# Messages with placeholders

A message is a sequence of characters and placeholders (`Catalog.parts`), and what it should become
is said by replacing all placeholders at once (`Catalog.inserted`): a value that is put in is not
read, so that a placeholder in it means nothing. Messages are filled in by replacing one placeholder
after the other instead, and a value that has been put in is read again for the placeholders still
to come. Both come to the same if every value but the last one is free of opening braces
(`Catalog.fill_eq_inserted`). For the messages of the catalogs it is then known that no placeholder
is left over (`Catalog.says_text`).
-/

namespace Groundwork.Catalog

open Text

/-! ## Parts of a message -/

/-- A part of a message. -/
inductive Part
  /-- A character that stands for itself. -/
  | char (c : Char)
  /-- A placeholder. -/
  | slot (name : String)
  deriving DecidableEq, Repr

/-- The parts of the rest of a message, where a placeholder may have been opened: its name goes on
to the next closing brace. -/
def partsFrom : (opened : Option (List Char)) → List Char → List Part
  | none, [] => []
  | some name, [] => .char '\x7b' :: name.map .char
  | none, c :: cs =>
    if c = '\x7b' then partsFrom (some []) cs else .char c :: partsFrom none cs
  | some name, c :: cs =>
    if c = '\x7d' then .slot (String.ofList name) :: partsFrom none cs
    else partsFrom (some (name ++ [c])) cs

/-- The parts of a message. -/
def parts (message : String) : List Part := partsFrom none message.toList

/-- The names of the placeholders of a message, in order. -/
def slots (message : String) : List String :=
  (parts message).filterMap fun
    | .char _ => none
    | .slot name => some name

namespace Part

/-- What a part becomes: the argument for a placeholder is put in, if there is one. -/
def filled (arguments : List (String × String)) : Part → List Char
  | char c => [c]
  | slot name => ((arguments.lookup name).getD (placeholder name)).toList

/-- A part that cannot be taken for another one: no character but that of a placeholder is a brace
that opens one. -/
def IsPlain : Part → Prop
  | char c => c ≠ '\x7b'
  | slot name => '\x7b' ∉ name.toList ∧ '\x7d' ∉ name.toList

instance : DecidablePred IsPlain
  | char c => inferInstanceAs (Decidable (c ≠ '\x7b'))
  | slot name => inferInstanceAs (Decidable ('\x7b' ∉ name.toList ∧ '\x7d' ∉ name.toList))

/-- The parts that are left of a part once the argument called `name` has been put in. -/
def put (name value : String) : Part → List Part
  | char c => [char c]
  | slot other => if other = name then value.toList.map char else [slot other]

end Part

/-- A message with every placeholder replaced at once by its argument. -/
def inserted (arguments : List (String × String)) (message : String) : String :=
  String.ofList ((parts message).flatMap (Part.filled arguments))

theorem toList_placeholder (name : String) :
    (placeholder name).toList = '\x7b' :: (name.toList ++ ['\x7d']) := by
  simp [placeholder]

theorem flatMap_filled_char (arguments : List (String × String)) (cs : List Char) :
    (cs.map Part.char).flatMap (Part.filled arguments) = cs := by
  induction cs with
  | nil => rfl
  | cons c cs ih => rw [List.map_cons, List.flatMap_cons, ih, Part.filled, List.singleton_append]

/-- The parts of a message make up the message. -/
theorem flatMap_filled_partsFrom (opened : Option (List Char)) (cs : List Char) :
    (partsFrom opened cs).flatMap (Part.filled []) =
      (opened.elim [] fun name => '\x7b' :: name) ++ cs := by
  induction cs generalizing opened with
  | nil =>
    cases opened with
    | none => rfl
    | some name =>
      rw [partsFrom, List.flatMap_cons, flatMap_filled_char, Part.filled]
      simp
  | cons c cs ih =>
    cases opened with
    | none =>
      rw [partsFrom]
      split
      · next hc =>
        rw [ih, hc]
        rfl
      · rw [List.flatMap_cons, ih, Part.filled]
        rfl
    | some name =>
      rw [partsFrom]
      split
      · next hc =>
        rw [List.flatMap_cons, ih, Part.filled, List.lookup_nil, Option.getD_none,
          toList_placeholder, String.toList_ofList, hc]
        simp
      · rw [ih]
        simp

theorem inserted_nil (message : String) : inserted [] message = message := by
  rw [inserted, parts, flatMap_filled_partsFrom, Option.elim_none, List.nil_append,
    String.ofList_toList]

/-! ## One placeholder after the other -/

section

variable {name value : String} {arguments : List (String × String)} {ps : List Part}

theorem flatMap_filled_put (ps : List Part) :
    (ps.flatMap (Part.put name value)).flatMap (Part.filled arguments) =
      ps.flatMap (Part.filled ((name, value) :: arguments)) := by
  rw [List.flatMap_assoc]
  refine List.flatMap_congr fun part _ => ?_
  cases part with
  | char c => rfl
  | slot other =>
    rw [Part.put, Part.filled, List.lookup_cons]
    by_cases h : other = name
    · rw [if_pos h, flatMap_filled_char, beq_iff_eq.2 h]
      rfl
    · rw [if_neg h, beq_false_of_ne h, List.flatMap_singleton, Part.filled]

theorem plain_put (hvalue : '\x7b' ∉ value.toList) (h : ∀ part ∈ ps, part.IsPlain) :
    ∀ part ∈ ps.flatMap (Part.put name value), part.IsPlain := by
  intro part hpart
  obtain ⟨from', hfrom, hpart⟩ := List.mem_flatMap.1 hpart
  have hplain := h from' hfrom
  cases from' with
  | char c => exact (List.mem_singleton.1 hpart) ▸ hplain
  | slot other =>
    rw [Part.put] at hpart
    split at hpart
    · obtain ⟨c, hc, rfl⟩ := List.mem_map.1 hpart
      rintro rfl
      exact hvalue hc
    · exact (List.mem_singleton.1 hpart) ▸ hplain

/-- Names without a closing brace are told apart by what follows them. -/
theorem name_eq_of_begins {names other rest : List Char} (h : '\x7d' ∉ names)
    (h' : '\x7d' ∉ other) (hp : names ++ ['\x7d'] <+: other ++ '\x7d' :: rest) :
    names = other := by
  induction names generalizing other with
  | nil =>
    cases other with
    | nil => rfl
    | cons d other =>
      obtain rfl : '\x7d' = d := (List.cons_prefix_cons.1 hp).1
      exact absurd List.mem_cons_self h'
  | cons c names ih =>
    cases other with
    | nil =>
      obtain rfl : c = '\x7d' := (List.cons_prefix_cons.1 hp).1
      exact absurd List.mem_cons_self h
    | cons d other =>
      obtain ⟨rfl, hrest⟩ := List.cons_prefix_cons.1 hp
      rw [ih (mt (List.mem_cons_of_mem _) h) (mt (List.mem_cons_of_mem _) h') hrest]

/-- Replacing the placeholder of a name in plain parts fills these in with its argument. -/
theorem replaceAll_placeholder (hname : '\x7d' ∉ name.toList) (h : ∀ part ∈ ps, part.IsPlain) :
    replaceAll (placeholder name).toList value.toList (ps.flatMap (Part.filled [])) =
      ps.flatMap (Part.filled [(name, value)]) := by
  induction ps with
  | nil => rw [List.flatMap_nil, List.flatMap_nil, replaceAll]
  | cons part ps ih =>
    obtain ⟨hpart, hps⟩ := List.forall_mem_cons.1 h
    rw [List.flatMap_cons, List.flatMap_cons, ← ih hps]
    cases part with
    | char c =>
      rw [toList_placeholder]
      exact replaceAll_append (by simpa [Part.filled] using Ne.symm hpart) _
    | slot other =>
      by_cases ho : other = name
      · subst ho
        simp only [Part.filled, List.lookup_nil, Option.getD_none, List.lookup_cons,
          beq_self_eq_true, Option.getD_some, toList_placeholder]
        exact replaceAll_pattern_append _
      · simp only [Part.filled, List.lookup_nil, Option.getD_none, List.lookup_cons,
          beq_false_of_ne ho, toList_placeholder]
        -- the brace is that of another name, and no other brace opens before the next part
        generalize ps.flatMap (Part.filled []) = rest
        have hprefix : ¬('\x7b' :: (name.toList ++ ['\x7d'])).isPrefixOf
            ('\x7b' :: (other.toList ++ ['\x7d'] ++ rest)) = true := by
          intro hp
          obtain ⟨-, hp⟩ := List.cons_prefix_cons.1 (List.isPrefixOf_iff_prefix.1 hp)
          rw [List.append_assoc] at hp
          exact ho (String.toList_inj.1 (name_eq_of_begins hname hpart.2 hp)).symm
        have hbrace : '\x7b' ∉ other.toList ++ ['\x7d'] := by simpa using hpart.1
        rw [List.cons_append, replaceAll, if_neg (fun hp => hprefix hp.2),
          replaceAll_append hbrace]
        rfl

end

theorem fill_cons (message name value : String) (arguments : List (String × String)) :
    fill message ((name, value) :: arguments) =
      fill (Text.replace (placeholder name) value message) arguments :=
  rfl

/-- Filling in one placeholder after the other replaces all of them at once, if the parts are plain
and every value but the last one is free of opening braces. -/
theorem fill_eq {arguments : List (String × String)} {ps : List Part}
    (hps : ∀ part ∈ ps, part.IsPlain) (hnames : ∀ a ∈ arguments, '\x7d' ∉ a.1.toList)
    (hvalues : ∀ a ∈ arguments.dropLast, '\x7b' ∉ a.2.toList) :
    fill (String.ofList (ps.flatMap (Part.filled []))) arguments =
      String.ofList (ps.flatMap (Part.filled arguments)) := by
  induction arguments generalizing ps with
  | nil => rfl
  | cons argument arguments ih =>
    obtain ⟨name, value⟩ := argument
    obtain ⟨hname, hnames⟩ := List.forall_mem_cons.1 hnames
    have hfirst : fill (String.ofList (ps.flatMap (Part.filled []))) ((name, value) :: arguments) =
        fill (String.ofList (ps.flatMap (Part.filled [(name, value)]))) arguments := by
      rw [fill_cons, Text.replace, String.toList_ofList, replaceAll_placeholder hname hps]
    rcases arguments with _ | ⟨second, arguments⟩
    · exact hfirst
    · obtain ⟨hvalue, hvalues⟩ := List.forall_mem_cons.1 hvalues
      rw [hfirst, ← flatMap_filled_put, ih (plain_put hvalue hps) hnames hvalues,
        flatMap_filled_put]

theorem fill_eq_inserted {arguments : List (String × String)} {message : String}
    (hmessage : ∀ part ∈ parts message, part.IsPlain)
    (hnames : ∀ a ∈ arguments, '\x7d' ∉ a.1.toList)
    (hvalues : ∀ a ∈ arguments.dropLast, '\x7b' ∉ a.2.toList) :
    fill message arguments = inserted arguments message := by
  have hfill := fill_eq hmessage hnames hvalues
  rwa [← inserted, ← inserted, inserted_nil] at hfill

/-- A value that is not the last one is read again. -/
example : fill createdProject [("name", "\x7bpath\x7d"), ("path", "/loja")] =
    "Created project /loja in /loja" := by
  decide +kernel

/-! ## What is said -/

/-- A text says a message in a language: it is the text for the message with every placeholder
replaced at once by its argument. -/
structure Says (language : Language) (message : String) (arguments : List (String × String))
    (text : String) : Prop where
  /-- Each placeholder has an argument and each argument a place. -/
  complete : (slots (lookup language message)).Perm (arguments.map (·.1))
  /-- Nothing but the placeholders could be taken for one. -/
  plain : ∀ part ∈ parts (lookup language message), part.IsPlain
  text_eq : text = inserted arguments (lookup language message)

/-- The messages that have placeholders, with the names of these. -/
def messages : List (String × List String) :=
  [(generating, ["kind", "name"]), (created, ["kind", "name", "path"]),
    (registered, ["aggregator"]), (alreadyRegistered, ["aggregator"]),
    (creatingProject, ["name"]), (createdProject, ["name", "path"])]

/-- In every language a message is plain and has its placeholders, in any order. -/
theorem plain_messages : ∀ message ∈ messages, ∀ language,
    (∀ part ∈ parts (lookup language message.1), part.IsPlain) ∧
      (slots (lookup language message.1)).Perm message.2 := by
  intro message hmessage language
  cases language <;> revert message <;> decide +kernel

theorem slot_of_mem_slots {message name : String} (h : name ∈ slots message) :
    Part.slot name ∈ parts message := by
  obtain ⟨part, hpart, he⟩ := List.mem_filterMap.1 h
  cases part with
  | char c => cases he
  | slot name' =>
    obtain rfl : name' = name := Option.some.inj he
    exact hpart

/-- The text for a message, filled in, says the message, if the arguments are those of its
placeholders and all but the last one are free of opening braces. -/
theorem says_text {message : String} {names : List String} {arguments : List (String × String)}
    (hmessage : (message, names) ∈ messages) (hnames : arguments.map (·.1) = names)
    (hvalues : ∀ a ∈ arguments.dropLast, '\x7b' ∉ a.2.toList) (language : Language) :
    Says language message arguments (text language message arguments) := by
  obtain ⟨hplain, hslots⟩ := plain_messages _ hmessage language
  rw [← hnames] at hslots
  refine ⟨hslots, hplain, fill_eq_inserted hplain (fun a ha => ?_) hvalues⟩
  have hslot : a.1 ∈ slots (lookup language message) :=
    hslots.mem_iff.2 (List.mem_map_of_mem ha)
  exact (hplain _ (slot_of_mem_slots hslot)).2

end Groundwork.Catalog
