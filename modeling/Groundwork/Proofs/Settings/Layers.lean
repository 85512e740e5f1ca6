import Groundwork.Proofs.Json.Grammar
import Groundwork.Proofs.Text.Keyword
import Groundwork.Settings

/-!
# Settings in layers

The settings of a project are those of its marker file laid over the defaults, each by itself: what
the file gives counts, whatever else it gives or leaves out, and the default counts where it gives
nothing (`Settings.ofText?_of_wellTyped`). The settings of the generator are no exception; an object
for the generator that gives one of them leaves the other at its default. A text that gives no
settings is not blank and either no document, or one that is no object, or one with a member of the
wrong kind (`Settings.ofText?_of_malformed`).
-/

namespace Groundwork

open Text

/-! ## Members by name -/

namespace Json

variable {members : List (String × Json)} {name : String} {value : Json}

theorem member?_eq_some_iff (hn : (members.map (·.1)).Nodup) :
    member? name members = some value ↔ (name, value) ∈ members := by
  constructor
  · intro h
    exact List.mem_reverse.1 (mem_of_lookup h)
  · intro h
    refine lookup_eq_some_of_mem ?_ (List.mem_reverse.2 h)
    rw [List.map_reverse]
    exact List.nodup_reverse.2 hn

theorem member?_eq_none_iff : member? name members = none ↔ name ∉ members.map (·.1) := by
  rw [member?, List.lookup_eq_none_iff]
  constructor
  · intro h hmem
    obtain ⟨member, hmember, rfl⟩ := List.mem_map.1 hmem
    exact absurd (h member (List.mem_reverse.2 hmember)) (by simp)
  · intro h member hmember
    have hne : name ≠ member.1 := fun he =>
      h (List.mem_map.2 ⟨member, List.mem_reverse.1 hmember, he.symm⟩)
    simpa using hne

end Json

namespace Settings

open Json

/-! ## One setting -/

section

variable {α : Type}

/-- The member called `name`, if there is one, is of the kind that `write` writes. -/
def Typed (members : List (String × Json)) (name : String) (write : α → Json) : Prop :=
  ∀ value, (name, value) ∈ members → ∃ a, value = write a

/-- There is a member called `name`, and it is not of the kind that `write` writes. -/
def Mistyped (members : List (String × Json)) (name : String) (write : α → Json) : Prop :=
  name ∈ members.map (·.1) ∧ ∀ value, (name, value) ∈ members → ∀ a, value ≠ write a

/-- A setting has the value that the member called `name` gives it, or else its default. -/
structure Governs (members : List (String × Json)) (name : String) (write : α → Json)
    (fallback a : α) : Prop where
  /-- What is given counts. -/
  given : ∀ b, (name, write b) ∈ members → a = b
  /-- What is not given is as in the defaults. -/
  absent : name ∉ members.map (·.1) → a = fallback

variable {members : List (String × Json)} {name : String} {write : α → Json}
  {read : Json → Option α} {fallback : α}

theorem exists_governs (hn : (members.map (·.1)).Nodup) (ht : Typed members name write)
    (hread : ∀ a, read (write a) = some a) :
    ∃ a, orDefault read fallback (member? name members) = some a ∧
      Governs members name write fallback a := by
  rcases hm : member? name members with _ | value
  · refine ⟨fallback, rfl, fun b hb => ?_, fun _ => rfl⟩
    rw [(member?_eq_some_iff hn).2 hb] at hm
    cases hm
  · have hmem := (member?_eq_some_iff hn).1 hm
    obtain ⟨a, rfl⟩ := ht value hmem
    refine ⟨a, hread a, fun b hb => ?_, fun hnot => ?_⟩
    · rw [(member?_eq_some_iff hn).2 hb] at hm
      have hwrite := congrArg read (Option.some.inj hm)
      rw [hread, hread] at hwrite
      exact (Option.some.inj hwrite).symm
    · exact absurd (List.mem_map_of_mem hmem) hnot

theorem orDefault_eq_none (hn : name ∈ members.map (·.1))
    (hread : ∀ value, (name, value) ∈ members → read value = none) :
    orDefault read fallback (member? name members) = none := by
  rcases hm : member? name members with _ | value
  · exact absurd hn (member?_eq_none_iff.1 hm)
  · exact hread value (List.mem_reverse.1 (mem_of_lookup hm))

end

/-! ## All settings -/

/-- How a path for templates is written, or that there is none. -/
def writePath : Option Path → Json
  | none => .null
  | some path => .text path.text

/-- The members of a marker file, and those that it has for the generator, are of the right kinds,
as far as they are settings. -/
structure WellTyped (members inner : List (String × Json)) : Prop where
  /-- No two members have the same name. -/
  distinct : (members.map (·.1)).Nodup
  /-- No two members for the generator have the same name. -/
  distinctInner : (inner.map (·.1)).Nodup
  name : Typed members "name" Json.text
  version : Typed members "version" Json.text
  /-- The members for the generator are those of an object. -/
  generator : ∀ value, ("generator", value) ∈ members → value = .object inner
  /-- There are none if there is nothing for the generator. -/
  noGenerator : "generator" ∉ members.map (·.1) → inner = []
  timestamps : Typed inner "timestamps" Json.boolean
  templates : Typed inner "templates_dir" writePath

/-- The settings are those of the members of a marker file and of those that it has for the
generator, each by itself, over the defaults. -/
structure LaidOver (settings : Settings) (members inner : List (String × Json)) : Prop where
  name : Governs members "name" Json.text "" settings.name
  version : Governs members "version" Json.text "0.1.0" settings.version
  timestamps : Governs inner "timestamps" Json.boolean true settings.generator.timestamps
  templates : Governs inner "templates_dir" writePath none settings.generator.templates

theorem asPath?_writePath (path : Option Path) : asPath? (writePath path) = some path := by
  cases path <;> rfl

variable {members inner : List (String × Json)}

theorem exists_generator (h : WellTyped members inner) :
    ∃ generator, GeneratorSettings.ofJson? (.object inner) = some generator ∧
      Governs inner "timestamps" Json.boolean true generator.timestamps ∧
      Governs inner "templates_dir" writePath none generator.templates := by
  obtain ⟨timestamps, htimestamps, hgoverns⟩ :=
    @exists_governs _ _ _ _ asBoolean? true h.distinctInner h.timestamps fun _ => rfl
  obtain ⟨templates, htemplates, hgoverns'⟩ :=
    @exists_governs _ _ _ _ asPath? none h.distinctInner h.templates asPath?_writePath
  refine ⟨⟨timestamps, templates⟩, ?_, hgoverns, hgoverns'⟩
  simp only [GeneratorSettings.ofJson?, htimestamps, htemplates]
  rfl

theorem exists_laidOver (h : WellTyped members inner) :
    ∃ settings, ofJson? (.object members) = some settings ∧ settings.LaidOver members inner := by
  obtain ⟨name, hname, hgoverns⟩ :=
    @exists_governs _ _ _ _ asText? "" h.distinct h.name fun _ => rfl
  obtain ⟨version, hversion, hgoverns'⟩ :=
    @exists_governs _ _ _ _ asText? "0.1.0" h.distinct h.version fun _ => rfl
  obtain ⟨generator, hgenerator, htimestamps, htemplates⟩ := exists_generator h
  have hmember : orDefault GeneratorSettings.ofJson? {} (member? "generator" members) =
      some generator := by
    rcases hm : member? "generator" members with _ | value
    · rw [h.noGenerator (member?_eq_none_iff.1 hm)] at hgenerator
      exact hgenerator
    · have hmem := (member?_eq_some_iff h.distinct).1 hm
      rw [h.generator value hmem]
      exact hgenerator
  refine ⟨⟨name, version, generator⟩, ?_, hgoverns, hgoverns', htimestamps, htemplates⟩
  simp only [ofJson?, hname, hversion, hmember]
  rfl

/-! ## Whole texts -/

variable {text : String}

theorem ofText?_of_blank (h : isBlankText text = true) : ofText? text = some {} := by
  rw [ofText?, if_pos h]
  rfl

theorem ofText?_of_not_blank (h : isBlankText text = false) :
    ofText? text = (Json.ofChars? text.toList).bind ofJson? := by
  rw [ofText?, if_neg (Bool.eq_false_iff.1 h)]
  rfl

theorem not_blank_of_document {value : Json} (h : IsDocument text.toList value) :
    isBlankText text = false := by
  obtain ⟨c, hc, hblank⟩ := h.exists_not_blank
  rw [isBlankText, List.all_eq_false]
  exact ⟨c, hc, by simp [hblank]⟩

theorem ofText?_of_document {value : Json} (h : IsDocument text.toList value) :
    ofText? text = ofJson? value := by
  rw [ofText?_of_not_blank (not_blank_of_document h), Json.ofChars?_iff.2 h, Option.bind_some]

/-- A document whose members are of the right kinds gives settings, which are laid over the
defaults. -/
theorem ofText?_of_wellTyped (hdoc : IsDocument text.toList (.object members))
    (h : WellTyped members inner) :
    ∃ settings, ofText? text = some settings ∧ settings.LaidOver members inner := by
  rw [ofText?_of_document hdoc]
  exact exists_laidOver h

/-- A text gives no settings: it is no document, or none that is an object, or a member of it is of
the wrong kind. -/
inductive Malformed (text : String) : Prop
  | notDocument (h : ∀ value, ¬IsDocument text.toList value)
  | notObject {value : Json} (hdoc : IsDocument text.toList value)
    (h : ∀ members, value ≠ .object members)
  | notText {members : List (String × Json)} {name : String}
    (hdoc : IsDocument text.toList (.object members)) (hname : name = "name" ∨ name = "version")
    (h : Mistyped members name Json.text)
  | notBoolean {members : List (String × Json)} (hdoc : IsDocument text.toList (.object members))
    (hgenerator : "generator" ∈ members.map (·.1))
    (h : ∀ value, ("generator", value) ∈ members →
      ∃ inner, value = .object inner ∧ Mistyped inner "timestamps" Json.boolean)

theorem asText?_eq_none {value : Json} (h : ∀ s, value ≠ .text s) : asText? value = none := by
  cases value with
  | text s => exact absurd rfl (h s)
  | _ => rfl

theorem asBoolean?_eq_none {value : Json} (h : ∀ b, value ≠ .boolean b) :
    asBoolean? value = none := by
  cases value with
  | boolean b => exact absurd rfl (h b)
  | _ => rfl

/-- Settings are read from an object setting by setting. -/
theorem orDefault_of_ofJson? {settings : Settings} (h : ofJson? (.object members) = some settings) :
    orDefault asText? "" (member? "name" members) = some settings.name ∧
      orDefault asText? "0.1.0" (member? "version" members) = some settings.version ∧
      orDefault GeneratorSettings.ofJson? {} (member? "generator" members) =
        some settings.generator := by
  obtain ⟨name, hname, h⟩ := Option.bind_eq_some_iff.1 h
  obtain ⟨version, hversion, h⟩ := Option.bind_eq_some_iff.1 h
  obtain ⟨generator, hgenerator, h⟩ := Option.bind_eq_some_iff.1 h
  cases h
  exact ⟨hname, hversion, hgenerator⟩

theorem ofText?_of_malformed (hblank : isBlankText text = false) (h : Malformed text) :
    ofText? text = none := by
  cases h with
  | notDocument h =>
    rcases hdoc : Json.ofChars? text.toList with _ | value
    · rw [ofText?_of_not_blank hblank, hdoc, Option.bind_none]
    · exact absurd (Json.ofChars?_iff.1 hdoc) (h value)
  | @notObject value hdoc h =>
    rw [ofText?_of_document hdoc]
    cases value with
    | object members => exact absurd rfl (h members)
    | _ => rfl
  | notText hdoc hname h =>
    rw [ofText?_of_document hdoc, Option.eq_none_iff_forall_ne_some]
    intro settings hsettings
    have hread := fun value hvalue => asText?_eq_none (h.2 value hvalue)
    obtain ⟨hgiven, hgiven', -⟩ := orDefault_of_ofJson? hsettings
    obtain rfl | rfl := hname
    · rw [orDefault_eq_none h.1 hread] at hgiven
      cases hgiven
    · rw [orDefault_eq_none h.1 hread] at hgiven'
      cases hgiven'
  | notBoolean hdoc hgenerator h =>
    rw [ofText?_of_document hdoc, Option.eq_none_iff_forall_ne_some]
    intro settings hsettings
    obtain ⟨-, -, hgiven⟩ := orDefault_of_ofJson? hsettings
    rw [orDefault_eq_none hgenerator fun value hvalue => ?_] at hgiven
    · cases hgiven
    · obtain ⟨inner, rfl, hinner⟩ := h value hvalue
      have hread := fun value hvalue => asBoolean?_eq_none (hinner.2 value hvalue)
      rw [GeneratorSettings.ofJson?, orDefault_eq_none hinner.1 hread]
      rfl

end Settings

end Groundwork
