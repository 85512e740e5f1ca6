import Groundwork.Command.Line
import Groundwork.Proofs.Command.Stages

/-!
# The language of the interface

A command does the same in every language (`Command.run_language`): the language only picks the
words of its events. What could tell two languages apart is the cause of a failure, since it is
looked up in the catalog like the labels are, with names, entries and paths of the user inside. No
cause is a text that the catalog has (`Failure.not_mem_keys`): a cause begins in a way that no such
text does, or, with a path in front, ends in one.
-/

namespace Groundwork

open Workspace

/-! ## Texts that are in no catalog -/

namespace Catalog

/-- The English texts that are translated. -/
def keys : List String := portugueseTexts.map (·.1)

theorem lookup_of_not_mem_keys {key : String} (h : key ∉ keys) (language : Language) :
    lookup language key = key := by
  cases language with
  | english => rfl
  | portuguese =>
    have hnone : portugueseTexts.lookup key = none := by
      rw [List.lookup_eq_none_iff]
      intro text htext
      have hne : key ≠ text.1 := fun he => h (List.mem_map.2 ⟨text, htext, he.symm⟩)
      simpa using hne
    rw [lookup, hnone, Option.getD_none]

end Catalog

namespace Failure

/-- What the cause of a failure begins with, unless it begins with a path. -/
def openings : List String :=
  ["entry #", "invalid ", "unknown ", "no oryum.json found in ", "template not found: ",
    "failed to render template ", "I/O error at "]

/-- A text begins like the cause of a failure. -/
def Opens (text : String) : Prop := ∃ opening ∈ openings, opening.toList <+: text.toList

instance : DecidablePred Opens := fun _ => List.decidableBEx _ _

theorem Opens.append {text : String} (h : Opens text) (more : String) : Opens (text ++ more) := by
  obtain ⟨opening, ho, hp⟩ := h
  refine ⟨opening, ho, ?_⟩
  rw [String.toList_append]
  exact hp.trans (List.prefix_append _ _)

theorem not_mem_keys_of_opens {text : String} (h : Opens text) : text ∉ Catalog.keys := by
  have hkeys : ∀ key ∈ Catalog.keys, ¬ Opens key := by decide
  exact fun hmem => hkeys text hmem h

theorem not_mem_keys_of_already (path : String) : path ++ " already exists" ∉ Catalog.keys := by
  have hkeys : ∀ key ∈ Catalog.keys, ¬ " already exists".toList <:+ key.toList := by decide
  refine fun hmem => hkeys _ hmem ?_
  rw [String.toList_append]
  exact List.suffix_append _ _

theorem opens_entryMessage (cause : EntryError) : Opens cause.message := by
  cases cause
  all_goals
    unfold EntryError.message
    simp only [toString, String.append_assoc]
    exact Opens.append (by decide) _

/-- The cause of a failure begins like one, unless it says that there is something at a path. -/
theorem opens_message (failure : Failure) :
    Opens failure.message ∨ ∃ path, failure = .alreadyExists path := by
  cases failure
  case alreadyExists path => exact .inr ⟨path, rfl⟩
  case entry cause => exact .inl (opens_entryMessage cause)
  case settings => exact .inl (by decide)
  all_goals
    left
    unfold message
    simp only [toString, String.append_assoc]
    exact Opens.append (by decide) _

/-- A text tells the cause of a failure: it is the message, and where a template or the settings are
at fault, the words of their reader can follow. -/
def Tells (failure : Failure) (text : String) : Prop :=
  match failure with
  | template _ _ | settings => ∃ more, text = failure.message ++ more
  | _ => text = failure.message

/-- What a command reports of a failure tells its cause, whatever a reader from outside says. -/
theorem tells_message (failure : Failure) (setting : Setting) :
    failure.Tells (setting.message failure) := by
  have hmore (e : Option String) : ∃ more, failure.explained e = failure.message ++ more := by
    cases e with
    | none => exact ⟨"", String.append_empty.symm⟩
    | some explanation => exact ⟨": " ++ explanation, String.append_assoc⟩
  cases failure
  case template | settings => exact hmore _
  all_goals rfl

/-- No text that tells the cause of a failure is translated, whatever it has of the user's. -/
theorem Tells.not_mem_keys {failure : Failure} {text : String} (h : failure.Tells text) :
    text ∉ Catalog.keys := by
  obtain hopens | ⟨path, rfl⟩ := opens_message failure
  · have hprefix : ∃ more, text = failure.message ++ more := by
      cases failure
      case template | settings => exact h
      all_goals exact ⟨"", h.trans String.append_empty.symm⟩
    obtain ⟨more, rfl⟩ := hprefix
    exact not_mem_keys_of_opens (hopens.append more)
  · obtain rfl : text = path.text ++ " already exists" := h
    exact not_mem_keys_of_already path.text

end Failure

/-! ## Runs in two languages -/

/-- What an event is, whatever its words. -/
inductive Event.Kind
  | progress
  | success
  | failure
  deriving DecidableEq, Repr

/-- The kind of an event. -/
def Event.kind : Event → Event.Kind
  | progress _ => .progress
  | success _ _ => .success
  | failure _ _ => .failure

/-- Two reports are the same but for the words of their events. -/
structure Report.SameButWords (first second : Report) : Prop where
  outcome : first.outcome = second.outcome
  events : first.events.map Event.kind = second.events.map Event.kind

/-- A report tells of a failure as its outcome does: the cause is the message of the outcome, and
the label, in the language of the interface, is that of its kind. -/
def Report.Candid (language : Language) (report : Report) : Prop :=
  ∀ kind message, report.outcome = .failure kind message →
    report.events.filter Event.isResult =
      [.failure (Catalog.lookup language kind.label) message]

theorem Setting.failureReport_candid (setting : Setting) (text : String) (failure : Failure) :
    (setting.failureReport [.progress text] failure).Candid setting.language := by
  have hword : setting.word (setting.message failure) = setting.message failure :=
    Catalog.lookup_of_not_mem_keys (failure.tells_message setting).not_mem_keys setting.language
  rintro kind message ⟨⟩
  rw [failureReport, hword]
  rfl

namespace Make

theorem run_sameButWords [Explanations] (make : Make) (directory : Path) (w : Workspace)
    (first second : Language) :
    Report.SameButWords ((make.run ⟨directory, first⟩ : StateM Workspace Report) w).1
        ((make.run ⟨directory, second⟩ : StateM Workspace Report) w).1 ∧
      ((make.run ⟨directory, first⟩ : StateM Workspace Report) w).2 =
        ((make.run ⟨directory, second⟩ : StateM Workspace Report) w).2 := by
  rcases h : (make.perform directory :
    ExceptT (Stage × Failure) (StateM Workspace) (Artifact × Written)).run w with ⟨r, w'⟩
  simp only [Make.run, bind, StateT.bind, h]
  rcases r with ⟨stage, failure⟩ | ⟨artifact, written⟩ <;> exact ⟨⟨rfl, rfl⟩, rfl⟩

theorem run_candid (make : Make) (setting : Setting) (w : Workspace) :
    Report.Candid setting.language ((make.run setting : StateM Workspace Report) w).1 := by
  rcases h : (make.perform setting.directory :
    ExceptT (Stage × Failure) (StateM Workspace) (Artifact × Written)).run w with ⟨r, w'⟩
  rw [(run_of_perform make setting h).1]
  rcases r with ⟨stage, failure⟩ | ⟨artifact, written⟩
  · exact setting.failureReport_candid _ failure
  · rintro kind message ⟨⟩

end Make

namespace New

theorem run_sameButWords [Explanations] (new : New) (directory : Path) (w : Workspace)
    (first second : Language) :
    Report.SameButWords ((new.run ⟨directory, first⟩ : StateM Workspace Report) w).1
        ((new.run ⟨directory, second⟩ : StateM Workspace Report) w).1 ∧
      ((new.run ⟨directory, first⟩ : StateM Workspace Report) w).2 =
        ((new.run ⟨directory, second⟩ : StateM Workspace Report) w).2 := by
  rcases h : (create (directory.join new.path) : Action (StateM Workspace) String).run w with
    ⟨failure | name, w'⟩ <;>
  · simp only [New.run, bind, StateT.bind, h]
    exact ⟨⟨rfl, rfl⟩, rfl⟩

theorem run_candid (new : New) (setting : Setting) (w : Workspace) :
    Report.Candid setting.language ((new.run setting : StateM Workspace Report) w).1 := by
  rcases h : (create (setting.directory.join new.path) : Action (StateM Workspace) String).run w
    with ⟨failure | name, w'⟩ <;> simp only [New.run, bind, StateT.bind, h]
  · exact setting.failureReport_candid _ failure
  · rintro kind message ⟨⟩

end New

namespace Command

variable [Explanations]

/-- What a run of a command comes to in a workspace: what it reports, and the workspace after it. -/
def result (command : Command) (directory : Path) (language : Language) (w : Workspace) :
    Report × Workspace :=
  (command.run ⟨directory, language⟩ : StateM Workspace Report) w

theorem result_language (command : Command) (directory : Path) (w : Workspace)
    (first second : Language) :
    Report.SameButWords (command.result directory first w).1
        (command.result directory second w).1 ∧
      (command.result directory first w).2 = (command.result directory second w).2 := by
  cases command with
  | new new => exact new.run_sameButWords directory w first second
  | make make => exact make.run_sameButWords directory w first second

theorem result_candid (command : Command) (directory : Path) (language : Language)
    (w : Workspace) : Report.Candid language (command.result directory language w).1 := by
  cases command with
  | new new => exact new.run_candid ⟨directory, language⟩ w
  | make make => exact make.run_candid ⟨directory, language⟩ w

/-- **The language of the interface has no effect but on the words.** In any two languages a command
comes to the same outcome with the same exit status, leaves the same workspace, and tells the user
of events of the same kinds in the same order. If it fails, the user is told the message of the
outcome itself, since no text that tells the cause of a failure is one that a catalog
translates. -/
theorem run_language (command : Command) (directory : Path) (w : Workspace) :
    (∀ first second : Language,
      let one := command.result directory first w
      let two := command.result directory second w
      one.1.outcome = two.1.outcome ∧ one.1.outcome.status = two.1.outcome.status ∧
        one.2 = two.2 ∧ one.1.events.map Event.kind = two.1.events.map Event.kind) ∧
    (∀ language kind message,
      (command.result directory language w).1.outcome = .failure kind message →
        (command.result directory language w).1.events.filter Event.isResult =
          [.failure (Catalog.lookup language kind.label) message]) ∧
    ∀ (failure : Failure) (text : String), failure.Tells text →
      ∀ language, Catalog.lookup language text = text := by
  refine ⟨fun first second => ?_, fun language => command.result_candid directory language w,
    fun failure text h => Catalog.lookup_of_not_mem_keys h.not_mem_keys⟩
  obtain ⟨⟨houtcome, hevents⟩, hworkspace⟩ := command.result_language directory w first second
  exact ⟨houtcome, congrArg Outcome.status houtcome, hworkspace, hevents⟩

end Command

end Groundwork
