import Groundwork.Proofs.Command.Atomicity
import Groundwork.Proofs.Command.Finding

/-!
# Commands in turn

Commands that make artifacts are run one after the other; each has its `Make.Turn`, the workspace
that it finds. In a project without links a turn either changes nothing or writes its artifact with
an exact effect (`Turn.fails_or_gains`), so the project stays without links (`Turn.plain_after`),
and the turns make up a course in it (`Make.Course`), along which later facts are proved.

Commands that are run from one directory stay in the project that is found from there at first, if
no directory below its root can become a root (`Project.Settled`, `proper_of_settled`): a turn
leaves a settled project settled (`Turn.settled_after`).
-/

namespace Groundwork

open Text Workspace

namespace Make

/-! ## Turns -/

/-- A command and the workspace that it runs in. -/
structure Turn where
  /-- The command. -/
  make : Make
  /-- The setting of the command. -/
  setting : Setting
  /-- The workspace before the command. -/
  before : Workspace

namespace Turn

-- Unfolding a run of the command is slow, and the rules of `Make.Runs` make it unnecessary.

/-- What the command reports. -/
@[irreducible]
def report (turn : Turn) : Report :=
  ((turn.make.run turn.setting : StateM Workspace Report) turn.before).1

/-- The workspace after the command. -/
@[irreducible]
def after (turn : Turn) : Workspace :=
  ((turn.make.run turn.setting : StateM Workspace Report) turn.before).2

/-- The artifact that the command makes, if it succeeds. -/
def artifact? (turn : Turn) : Option Artifact :=
  match turn.report.outcome with
  | .success _ => (turn.make.prepared turn.setting.directory turn.before).toOption.map (·.2)
  | .failure _ _ => none

/-- The command does not succeed and leaves the files alone. -/
structure Fails (turn : Turn) : Prop where
  /-- The outcome is a failure. -/
  outcome : ∀ path, turn.report.outcome ≠ .success path
  /-- The files are as they were. -/
  files : turn.after.files = turn.before.files

/-- The project that the command finds is the one at `root`. -/
def InProject (turn : Turn) (root : Path) : Prop :=
  ((Project.locate turn.setting.directory : Action (StateM Workspace) Path).run turn.before).1 =
    .ok root

theorem artifact?_of_success {turn : Turn} {path : Path} {project : Project} {artifact : Artifact}
    (ho : turn.report.outcome = .success path)
    (hq : turn.make.prepared turn.setting.directory turn.before = .ok (project, artifact)) :
    turn.artifact? = some artifact := by
  rw [Turn.artifact?, ho, hq]
  rfl

theorem Fails.artifact? {turn : Turn} (h : turn.Fails) : turn.artifact? = none := by
  unfold Turn.artifact?
  split
  · next path hp => exact absurd hp (h.outcome path)
  · rfl

end Turn

/-- The turns of commands that are run one after the other. -/
def turns (w : Workspace) : List (Make × Setting) → List Turn
  | [] => []
  | (make, setting) :: commands =>
    ⟨make, setting, w⟩ :: turns (Turn.after ⟨make, setting, w⟩) commands

/-- The workspace after commands that are run one after the other. -/
def runAll (w : Workspace) : List (Make × Setting) → Workspace
  | [] => w
  | (make, setting) :: commands => runAll (Turn.after ⟨make, setting, w⟩) commands

/-! ## One turn -/

theorem root_of_prepared {make : Make} {directory root : Path} {w : Workspace} {project : Project}
    {artifact : Artifact} (h : make.prepared directory w = .ok (project, artifact))
    (hr : ((Project.locate directory : Action (StateM Workspace) Path).run w).1 = .ok root) :
    project.root = root := by
  obtain ⟨⟨v, v', hv, hproject⟩, -⟩ := Make.stages_of_prepared h
  obtain ⟨root', w₁, hlocate, hload⟩ := andThen_ok hproject
  rw [root_of_load hload]
  have hl := locate_congr directory hv
  rw [hlocate, hr] at hl
  exact Except.ok.inj hl

theorem Turn.runs (turn : Turn) :
    turn.make.Runs turn.setting turn.before turn.report turn.after.files := by
  unfold report after
  exact runs_of_run turn.make turn.setting turn.before

variable {root : Path} {here : Location}

/-- What is assumed of a turn: it runs in the project, and if it fails, it is not because a file or
directory cannot be read or written. -/
structure Turn.Proper (turn : Turn) (root : Path) : Prop where
  /-- The command runs in the project. -/
  inProject : turn.InProject root
  /-- Files and directories can be read and written. -/
  noFile : ∀ message, turn.report.outcome ≠ .failure .file message

/-- A turn in a plain project changes nothing, or it makes an artifact of the entity that it names,
and the project is plain afterwards. -/
theorem Turn.fails_or_gains {turn : Turn} (hp : Plain turn.before.files root here)
    (h : turn.Proper root) :
    turn.Fails ∨
      ∃ entity artifact, Entity.parse turn.make.name = .ok entity ∧
        turn.artifact? = some artifact ∧ artifact.path = turn.make.kind.path entity ∧
        artifact.registration = turn.make.kind.registration entity ∧
        Gains root here turn.make.kind entity artifact turn.before.files turn.after.files ∧
        Plain turn.after.files root here := by
  have hruns := turn.runs
  have hno := h.noFile
  have hartifact : turn.artifact? =
      match turn.report.outcome with
      | .success _ => (turn.make.prepared turn.setting.directory turn.before).toOption.map (·.2)
      | .failure _ _ => none := rfl
  generalize hreport : turn.report = report at hruns hno hartifact
  generalize hfiles : turn.after.files = t at hruns
  cases hruns with
  | unprepared stage failure hq =>
    exact .inl ⟨by simp [hreport, Setting.failureReport], hfiles⟩
  | unwritten project artifact failure t hq hw =>
    obtain ⟨-, entity, hentity, hpath, -, -⟩ := ready_of_prepared hq
    have hn := Entity.wellNamed_of_parse hentity
    obtain rfl := root_of_prepared hq h.inProject
    obtain ⟨links, hr⟩ := hp.reaches
    have hk : failure.kind ≠ .file := fun hk => hno (turn.setting.message failure) (by
      simp [Setting.failureReport, hk])
    rw [turn.make.kind.path_eq] at hpath
    refine .inl ⟨by simp [hreport, Setting.failureReport], hfiles.trans ?_⟩
    exact hw.eq_of_failure hp.rooted hr turn.make.kind.isName_directory
      turn.make.kind.byteLength_directory (ArtifactKind.isName_fileName hn) hpath hk
  | written project artifact written t hq hw =>
    obtain ⟨-, entity, hentity, hpath, hagg, hreg⟩ := ready_of_prepared hq
    obtain rfl := root_of_prepared hq h.inProject
    have hg := gains_of_writes hp (Entity.wellNamed_of_parse hentity) hpath hagg hw
    rw [hq] at hartifact
    exact .inr ⟨entity, artifact, hentity, hartifact, hpath, hreg, hg, hg.plain_of_writes hp hw⟩

theorem Turn.plain_after {turn : Turn} (hp : Plain turn.before.files root here)
    (h : turn.Proper root) : Plain turn.after.files root here := by
  obtain hf | ⟨entity, artifact, -, -, -, -, -, hplain⟩ := turn.fails_or_gains hp h
  · rwa [hf.files]
  · exact hplain

/-- A file that is no aggregator is as it was. -/
theorem Turn.keeps_file {turn : Turn} (hp : Plain turn.before.files root here)
    (h : turn.Proper root) {location : Location} {bytes : List UInt8}
    (hf : turn.before.files.entry? location = some (.file bytes))
    (ha : ∀ kind : ArtifactKind, location ≠ kind.place here ArtifactKind.aggregatorName) :
    turn.after.files.entry? location = some (.file bytes) := by
  obtain hfails | ⟨entity, artifact, -, -, -, -, hg, -⟩ := turn.fails_or_gains hp h
  · rwa [hfails.files]
  · exact hg.file hp hf (ha _)

/-! ## Courses -/

/-- Commands take their turns in a plain project, from one workspace to another. -/
inductive Course (root : Path) (here : Location) : Workspace → List Turn → Workspace → Prop
  /-- There is no command any more. -/
  | done {w : Workspace} (hp : Plain w.files root here) : Course root here w [] w
  /-- A command takes its turn, and the others follow. -/
  | step {turn : Turn} {turns : List Turn} {w' : Workspace}
    (hp : Plain turn.before.files root here) (h : turn.Proper root)
    (rest : Course root here turn.after turns w') :
    Course root here turn.before (turn :: turns) w'

namespace Course

variable {w w' : Workspace} {turns : List Turn}

theorem plain_end (hc : Course root here w turns w') : Plain w'.files root here := by
  induction hc with
  | done hp => exact hp
  | step _ _ _ ih => exact ih

theorem of_mem (hc : Course root here w turns w') :
    ∀ turn ∈ turns, Plain turn.before.files root here ∧ turn.Proper root := by
  induction hc with
  | done => simp
  | step hp h _ ih => exact List.forall_mem_cons.2 ⟨⟨hp, h⟩, ih⟩

end Course

/-- Commands that are run one after the other take their turns in the project if each is proper. -/
theorem course_of_proper {w : Workspace} {commands : List (Make × Setting)}
    (hp : Plain w.files root here) (hc : ∀ turn ∈ turns w commands, turn.Proper root) :
    Course root here w (turns w commands) (runAll w commands) := by
  induction commands generalizing w with
  | nil => exact .done hp
  | cons command commands ih =>
    obtain ⟨make, setting⟩ := command
    obtain ⟨h, hc⟩ := List.forall_mem_cons.1 hc
    have hrest := ih (Turn.plain_after hp h) hc
    exact @Course.step root here ⟨make, setting, w⟩ _ _ hp h hrest

/-! ## Staying in a project -/

variable {start : Path} {w : Workspace} {commands : List (Make × Setting)}

theorem Turn.grows (turn : Turn) :
    ∃ allowed, turn.before.files.Grows allowed turn.after.files := by
  obtain h | ⟨project, artifact, r, -, hw⟩ := turn.runs.files_eq_or_writes
  · rw [h]
    exact ⟨fun _ _ => True, (FileTree.Extends.refl _).grows⟩
  · exact ⟨_, hw.grows⟩

theorem Turn.settled_after {turn : Turn} (hp : Plain turn.before.files root here)
    (h : turn.Proper root) (hs : Project.Settled start root turn.before.files) :
    Project.Settled start root turn.after.files := by
  obtain ⟨allowed, hg⟩ := turn.grows
  obtain hf | ⟨entity, artifact, -, -, -, -, hgains, -⟩ := turn.fails_or_gains hp h
  · rwa [hf.files]
  · exact hs.of_gains hg hgains

/-- Commands that are run from one directory stay in the project that is found from there. -/
theorem proper_of_settled (hp : Plain w.files root here)
    (hs : Project.Settled start root w.files)
    (hd : ∀ command ∈ commands, command.2.directory = start)
    (hf : ∀ turn ∈ turns w commands, ∀ message, turn.report.outcome ≠ .failure .file message) :
    ∀ turn ∈ turns w commands, turn.Proper root := by
  induction commands generalizing w with
  | nil => simp [turns]
  | cons command commands ih =>
    obtain ⟨make, setting⟩ := command
    obtain ⟨hf, hfs⟩ := List.forall_mem_cons.1 hf
    obtain ⟨rfl, hd⟩ := List.forall_mem_cons.1 hd
    have h : Turn.Proper ⟨make, setting, w⟩ root := ⟨locate_of_settled hs, hf⟩
    exact List.forall_mem_cons.2 ⟨h, ih (Turn.plain_after hp h) (Turn.settled_after hp h hs) hd hfs⟩

end Make

end Groundwork
