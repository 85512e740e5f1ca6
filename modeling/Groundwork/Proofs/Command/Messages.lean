import Groundwork.Proofs.Catalog
import Groundwork.Proofs.Command.Language
import Groundwork.Proofs.Command.NewProject

/-!
# What commands say

The messages of a command have names and paths of the user's in them, and have them as they are
(`Command.events_verbatim`). A name or a path can hold braces and what looks like a placeholder; but
whatever can is the last argument of its message, and what is put in last is not read again. What is
put in before is a label of the catalog, the class name of an entity that has been accepted, or the
name of a project that has been, and none of these has a brace.
-/

namespace Groundwork

open Catalog Text

/-- What an event of a command tells the user: which message, and what is put into it. -/
inductive Command.Tells (setting : Setting) : Command → Event → Prop
  | generating (make : Make) {text : String}
    (htext : Says setting.language Catalog.generating
      [("kind", lookup setting.language make.kind.label), ("name", trim make.name)] text) :
    Tells setting (.make make) (.progress text)
  | created (make : Make) (entity : Entity) (isNew : Bool) {text detail : String}
    (hentity : Entity.parse make.name = .ok entity)
    (htext : Says setting.language Catalog.created
      [("kind", lookup setting.language make.kind.label), ("name", make.kind.className entity),
        ("path", (make.kind.path entity).text)] text)
    (hdetail : Says setting.language (if isNew then registered else alreadyRegistered)
      [("aggregator", make.kind.aggregator.text)] detail) :
    Tells setting (.make make) (.success text [detail])
  | creatingProject (new : New) {text : String}
    (htext : Says setting.language Catalog.creatingProject
      [("name", (setting.directory.join new.path).fileName?.getD "")] text) :
    Tells setting (.new new) (.progress text)
  | createdProject (new : New) (name : String) {text : String}
    (hname : (setting.directory.join new.path).fileName? = some name)
    (htext : Says setting.language Catalog.createdProject
      [("name", name), ("path", (setting.directory.join new.path).text)] text) :
    Tells setting (.new new) (.success text (New.nextSteps setting new.path))
  | failed (command : Command) (failure : Failure) :
    Tells setting command
      (.failure (lookup setting.language failure.kind.label) (setting.message failure))

section

variable {setting : Setting}

theorem tells_failure (command : Command) (setting : Setting) (failure : Failure) :
    command.Tells setting
      (.failure (setting.word failure.kind.label) (setting.word (setting.message failure))) := by
  have hword : setting.word (setting.message failure) = setting.message failure :=
    lookup_of_not_mem_keys (failure.tells_message setting).not_mem_keys setting.language
  rw [hword]
  exact .failed command failure

/-! ## Artifacts -/

namespace Make

theorem brace_not_mem_label (kind : ArtifactKind) (language : Language) :
    '\x7b' ∉ (lookup language kind.label).toList := by
  cases kind <;> cases language <;> decide

theorem brace_not_mem_className {raw : String} {entity : Entity} (h : Entity.parse raw = .ok entity)
    (kind : ArtifactKind) : '\x7b' ∉ (kind.className entity).toList := by
  rw [ArtifactKind.className_eq, String.toList_append, List.mem_append]
  rintro (hmem | hmem)
  · exact ne_of_clear (Entity.clear_of_mem_typeName h hmem) (by decide) rfl
  · exact absurd hmem (by cases kind <;> decide)

theorem tells_progress (make : Make) (setting : Setting) :
    (Command.make make).Tells setting (make.progress setting) := by
  have hmessage : (generating, ["kind", "name"]) ∈ messages := by decide
  refine .generating make (says_text hmessage rfl ?_ setting.language)
  rw [List.dropLast_cons_cons, List.dropLast_singleton, List.forall_mem_singleton]
  exact brace_not_mem_label make.kind setting.language

theorem tells_succeeded {make : Make} {entity : Entity} {artifact : Artifact}
    (hentity : Entity.parse make.name = .ok entity)
    (hpath : artifact.path = make.kind.path entity)
    (hagg : artifact.aggregator = make.kind.aggregator) (setting : Setting) (written : Written) :
    (Command.make make).Tells setting (make.succeeded setting artifact written) := by
  have hname : make.displayName = make.kind.className entity := by rw [displayName, hentity]
  have hcreated : (created, ["kind", "name", "path"]) ∈ messages := by decide
  have hregistered : (registered, ["aggregator"]) ∈ messages := by decide
  have halready : (alreadyRegistered, ["aggregator"]) ∈ messages := by decide
  rw [succeeded, hname, hpath, hagg]
  refine .created make entity written.registered hentity
    (says_text hcreated rfl ?_ setting.language) ?_
  · rw [List.dropLast_cons_cons, List.dropLast_cons_cons, List.dropLast_singleton,
      List.forall_mem_cons, List.forall_mem_singleton]
    exact ⟨brace_not_mem_label make.kind setting.language,
      brace_not_mem_className hentity make.kind⟩
  · cases written.registered
    · exact says_text halready rfl (by simp) setting.language
    · exact says_text hregistered rfl (by simp) setting.language

theorem tells_of_runs {make : Make} {w : Workspace} {report : Report} {t : FileTree}
    (h : make.Runs setting w report t) :
    ∃ result, report.events = [make.progress setting, result] ∧ result.isResult = true ∧
      (Command.make make).Tells setting result := by
  cases h with
  | unprepared stage failure _ =>
    exact ⟨_, rfl, rfl, tells_failure _ setting failure⟩
  | unwritten project artifact failure _ _ _ =>
    exact ⟨_, rfl, rfl, tells_failure _ setting failure⟩
  | written project artifact written _ hprepared _ =>
    obtain ⟨entity, hentity, hpath, hagg, -⟩ := (ready_of_prepared hprepared).named
    exact ⟨_, rfl, rfl, tells_succeeded hentity hpath hagg setting written⟩

end Make

/-! ## Projects -/

namespace New

/-- What is told while a project is being made. -/
def progress (new : New) (setting : Setting) : Event :=
  .progress <| setting.say Catalog.creatingProject
    [("name", (setting.directory.join new.path).fileName?.getD "")]

theorem tells_progress (new : New) (setting : Setting) :
    (Command.new new).Tells setting (new.progress setting) := by
  have hmessage : (creatingProject, ["name"]) ∈ messages := by decide
  exact .creatingProject new (says_text hmessage rfl (by simp) setting.language)

theorem tells_of_run (new : New) (setting : Setting) (w : Workspace) :
    ∃ result, ((new.run setting : StateM Workspace Report) w).1.events =
        [new.progress setting, result] ∧ result.isResult = true ∧
      (Command.new new).Tells setting result := by
  rcases h : (create (setting.directory.join new.path) : Action (StateM Workspace) String).run w
    with ⟨failure | name, w'⟩
  all_goals simp only [New.run, bind, StateT.bind, h]
  · exact ⟨_, rfl, rfl, tells_failure _ setting failure⟩
  · obtain ⟨hname, hproject, -⟩ := of_create h
    have hmessage : (createdProject, ["name", "path"]) ∈ messages := by decide
    refine ⟨_, rfl, rfl, .createdProject new name hname ?_⟩
    refine says_text hmessage rfl ?_ setting.language
    rw [List.dropLast_cons_cons, List.dropLast_singleton, List.forall_mem_singleton]
    exact brace_not_mem hproject

end New

end

namespace Command

variable [Explanations]

theorem result_new (new : New) (directory : Path) (language : Language) (w : Workspace) :
    (Command.new new).result directory language w =
      (new.run ⟨directory, language⟩ : StateM Workspace Report) w :=
  rfl

theorem result_make (make : Make) (directory : Path) (language : Language) (w : Workspace) :
    (Command.make make).result directory language w =
      (make.run ⟨directory, language⟩ : StateM Workspace Report) w :=
  rfl

/-- **What the user typed is shown as it is.** Whatever the command, the language and the files, the
user is told what is under way and then the result, and each text is that of the message in the
language with all placeholders replaced at once: what looks like a placeholder in a name or a path
is left alone, and no placeholder of the message remains. -/
theorem events_verbatim (command : Command) (directory : Path) (language : Language)
    (w : Workspace) :
    ∃ progress result, (command.result directory language w).1.events = [progress, result] ∧
      progress.isResult = false ∧ result.isResult = true ∧
      command.Tells ⟨directory, language⟩ progress ∧
        command.Tells ⟨directory, language⟩ result := by
  cases command with
  | new new =>
    rw [result_new]
    obtain ⟨result, hevents, hresult, htells⟩ := new.tells_of_run ⟨directory, language⟩ w
    exact ⟨new.progress ⟨directory, language⟩, result, hevents, rfl, hresult,
      new.tells_progress ⟨directory, language⟩, htells⟩
  | make make =>
    rw [result_make]
    have hruns := make.runs_of_run ⟨directory, language⟩ w
    obtain ⟨result, hevents, hresult, htells⟩ := Make.tells_of_runs hruns
    exact ⟨make.progress ⟨directory, language⟩, result, hevents, rfl, hresult,
      make.tells_progress ⟨directory, language⟩, htells⟩

end Command

end Groundwork
