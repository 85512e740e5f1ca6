import Groundwork.Command.Make
import Groundwork.Proofs.Artifact.Writes

/-!
# The stages of making an artifact

Of the stages that a command goes through, only the last one touches files. `Make.prepare` runs the
stages before it, which find the project and generate the artifact; they read files and leave them
alone (`keeps_prepare`). So a run of the command is one of three: the preparation fails, or the
writing fails, or the artifact is written (`Make.Runs`, `runs_of_run`).
-/

namespace Groundwork

open Workspace

/-! ## What reads only -/

namespace Workspace

variable {α ε ε' : Type} {R : FileTree → FileTree → Prop} [IsPreorder FileTree R]

theorem keeps_entry (x : Except EntryError α) :
    Keeps R (Action.entry x : Action (StateM Workspace) α).run := by
  cases x with
  | ok a => exact keeps_ok a
  | error e => exact keeps_throw _

theorem keeps_firstMarked (directories : List Path) :
    Keeps R (Project.firstMarked directories : StateM Workspace (Option Path)) := by
  induction directories with
  | nil => exact keeps_pure _
  | cons directory directories ih =>
    refine keeps_bind (keeps_ask _) fun b => ?_
    cases b with
    | false => exact ih
    | true => exact keeps_pure _

theorem keeps_locate (start : Path) :
    Keeps R (Project.locate start : Action (StateM Workspace) Path).run := by
  refine keeps_andThen (keeps_step (keeps_firstMarked _)) fun r => ?_
  cases r with
  | some root => exact keeps_ok _
  | none => exact keeps_throw _

theorem keeps_load (root : Path) :
    Keeps R (Project.load root : Action (StateM Workspace) Project).run := by
  refine keeps_andThen (keeps_attempt _ (keeps_readText _)) fun text => ?_
  split
  · exact keeps_throw _
  · exact keeps_andThen (keeps_step (keeps_note _)) fun _ => keeps_ok _

theorem keeps_discover (start : Path) :
    Keeps R (Project.discover start : Action (StateM Workspace) Project).run :=
  keeps_andThen (keeps_locate start) fun root => keeps_load root

theorem keeps_templates (project : Project) :
    Keeps R (project.templates : Action (StateM Workspace) TemplateSource).run := by
  unfold Project.templates
  split
  · exact keeps_ok _
  · exact keeps_andThen (keeps_step (keeps_note _)) fun _ => keeps_ok _

theorem keeps_loadTemplate (name : String) (source : TemplateSource) :
    Keeps R (source.load name : StateM Workspace (Except FileError (Option String))) := by
  cases source with
  | library => exact keeps_pure _
  | listed templates => exact keeps_pure _
  | directory path =>
    simp only [TemplateSource.load]
    split
    · refine keeps_bind (keeps_readText _) fun r => ?_
      split
      · exact keeps_bind (keeps_note _) fun _ => keeps_pure _
      · exact keeps_pure _
      · exact keeps_pure _
    · exact keeps_pure _

theorem keeps_render (source : TemplateSource) (name : String) (scope : Template.Scope) :
    Keeps R (source.render name scope : Action (StateM Workspace) String).run := by
  refine keeps_andThen (keeps_step (keeps_loadTemplate name source)) fun r => ?_
  split
  · exact keeps_throw _
  · exact keeps_throw _
  · split
    · exact keeps_ok _
    · exact keeps_throw _

theorem keeps_generate (kind : ArtifactKind) (source : TemplateSource) (request : Request) :
    Keeps R (request.generate kind source : Action (StateM Workspace) Artifact).run :=
  keeps_andThen (keeps_step (keeps_note _)) fun _ =>
    keeps_andThen (keeps_render _ _ _) fun _ => keeps_ok _

theorem keeps_warn (what : String) (names : List String) :
    Keeps R (Make.warn what names : Action (StateM Workspace) Unit).run := by
  unfold Make.warn
  induction Entry.repeated [] names with
  | nil => exact keeps_ok _
  | cons name names ih => exact keeps_andThen (keeps_step (keeps_note _)) fun _ => ih

theorem keeps_request (make : Make) (project : Project) :
    Keeps R (make.request project : Action (StateM Workspace) Request).run :=
  keeps_andThen (keeps_entry _) fun _ => keeps_andThen (keeps_entry _) fun _ =>
    keeps_andThen (keeps_warn _ _) fun _ => keeps_andThen (keeps_entry _) fun _ =>
      keeps_andThen (keeps_warn _ _) fun _ => keeps_ok _

theorem keeps_enter {stage next : Make.Stage} {action : Action (StateM Workspace) α}
    (h : Keeps R action.run) : Keeps R (Make.enter stage next action).run := by
  refine keeps_andThen (x := ExceptT.lift (Make.advance stage next)) (fun w => ?_) fun _ w => ?_
  · exact keeps_note _ w
  · exact h w

end Workspace

/-! ## The stages before the writing -/

namespace Make

variable {m : Type → Type} [Monad m] [FileStore m]

/-- Runs the stages up to the generation of the artifact. -/
def prepare (make : Make) (directory : Path) :
    ExceptT (Stage × Failure) m (Project × Artifact) := do
  let project ← enter .idle .validatingContext (Project.discover directory)
  let request ← enter .validatingContext .parsing (make.request project)
  let artifact ← enter .parsing .rendering do
    let source ← project.templates
    request.generate make.kind source
  pure (project, artifact)

/-- What the preparation comes to in a workspace. -/
def prepared (make : Make) (directory : Path) (w : Workspace) :
    Except (Stage × Failure) (Project × Artifact) :=
  ((make.prepare directory : ExceptT (Stage × Failure) (StateM Workspace) _).run w).1

theorem perform_eq [LawfulMonad m] (make : Make) (directory : Path) :
    (make.perform directory : ExceptT (Stage × Failure) m (Artifact × Written)) =
      make.prepare directory >>= fun (project, artifact) =>
        enter .rendering .writing (artifact.write project.root) >>= fun written =>
          pure (artifact, written) := by
  simp only [perform, prepare, bind_assoc, pure_bind]

end Make

theorem keeps_prepare {R : FileTree → FileTree → Prop} [IsPreorder FileTree R] (make : Make)
    (directory : Path) :
    Keeps R (make.prepare directory :
      ExceptT (Make.Stage × Failure) (StateM Workspace) (Project × Artifact)).run :=
  keeps_andThen (keeps_enter (keeps_discover _)) fun _ =>
    keeps_andThen (keeps_enter (keeps_request _ _)) fun _ =>
      keeps_andThen (keeps_enter (keeps_andThen (keeps_templates _) fun _ => keeps_generate _ _ _))
        fun _ => keeps_ok _

/-! ## Entering a stage -/

namespace Make

theorem run_enter_eq {α : Type} (stage next : Stage) (action : Action (StateM Workspace) α)
    (w : Workspace) :
    (enter stage next action).run w =
      ((action.run ((advance stage next : StateM Workspace Unit) w).2).1.mapError (next, ·),
        (action.run ((advance stage next : StateM Workspace Unit) w).2).2) := by
  rw [enter, run_andThen]
  rfl

theorem run_enter {α : Type} (stage next : Stage) (action : Action (StateM Workspace) α)
    (w : Workspace) :
    ∃ w₁ : Workspace, w₁.files = w.files ∧
      (enter stage next action).run w =
        ((action.run w₁).1.mapError (next, ·), (action.run w₁).2) :=
  ⟨((advance stage next : StateM Workspace Unit) w).2, rfl, run_enter_eq stage next action w⟩

theorem enter_ok {α : Type} {stage next : Stage} {action : Action (StateM Workspace) α}
    {w w' : Workspace} {a : α} (h : (enter stage next action).run w = (.ok a, w')) :
    ∃ w₁ : Workspace, w₁.files = w.files ∧ action.run w₁ = (.ok a, w') := by
  obtain ⟨w₁, hw, he⟩ := run_enter stage next action w
  rw [he] at h
  rcases hr : action.run w₁ with ⟨e | b, w₂⟩
  · rw [hr] at h
    cases h
  · rw [hr] at h
    cases h
    exact ⟨w₁, hw, hr⟩

end Make

/-! ## What has been prepared -/

/-- A directory holds the marker file, itself or by a link. -/
def Project.isMarked (t : FileTree) (directory : Path) : Bool := t.isFile (directory.join marker)

theorem run_firstMarked (directories : List Path) (w : Workspace) :
    (Project.firstMarked directories : StateM Workspace (Option Path)) w =
      (directories.find? (Project.isMarked w.files), w) := by
  induction directories with
  | nil => rfl
  | cons directory directories ih =>
    simp only [Project.firstMarked, bind, StateT.bind, run_isFile, List.find?_cons,
      Project.isMarked]
    split
    · next h => rw [h]; rfl
    · next h =>
      rw [Bool.eq_false_iff.2 h]
      exact ih

/-- The root that is located is the first path on the way up that holds a marker file. -/
theorem run_locate (start : Path) (w : Workspace) :
    (Project.locate start : Action (StateM Workspace) Path).run w =
      (match start.ancestors.find? (Project.isMarked w.files) with
        | some root => .ok root
        | none => .error (.noProject start), w) := by
  rw [Project.locate, run_andThen, run_step, run_firstMarked]
  rcases start.ancestors.find? (Project.isMarked w.files) with _ | root <;> rfl

theorem isFile_of_locate {start root : Path} {w w' : Workspace}
    (h : (Project.locate start : Action (StateM Workspace) Path).run w = (.ok root, w')) :
    w.files.isFile (root.join Project.marker) = true := by
  rw [run_locate] at h
  split at h
  · next hfind =>
    cases h
    have hmarked : Project.isMarked w.files root = true := List.find?_some hfind
    exact hmarked
  · cases h

theorem root_of_load {root : Path} {project : Project} {w w' : Workspace}
    (h : (Project.load root : Action (StateM Workspace) Project).run w = (.ok project, w')) :
    project.root = root := by
  obtain ⟨text, w₁, -, h⟩ := andThen_ok h
  split at h
  · cases h
  · cases h
    rfl

theorem entity_of_request {make : Make} {project : Project} {request : Request} {w w' : Workspace}
    (h : (make.request project : Action (StateM Workspace) Request).run w = (.ok request, w')) :
    Entity.parse make.name = .ok request.entity := by
  obtain ⟨entity, w₁, hentity, h⟩ := andThen_ok h
  obtain ⟨fields, w₂, -, h⟩ := andThen_ok h
  obtain ⟨_, w₃, -, h⟩ := andThen_ok h
  obtain ⟨relationships, w₄, -, h⟩ := andThen_ok h
  obtain ⟨_, w₅, -, h⟩ := andThen_ok h
  cases h
  cases hp : Entity.parse make.name with
  | error e =>
    rw [hp] at hentity
    cases hentity
  | ok entity' =>
    rw [hp] at hentity
    cases hentity
    rfl

theorem artifact_of_generate {kind : ArtifactKind} {source : TemplateSource} {request : Request}
    {artifact : Artifact} {w w' : Workspace}
    (h : (request.generate kind source : Action (StateM Workspace) Artifact).run w =
      (.ok artifact, w')) :
    artifact.path = kind.path request.entity ∧ artifact.aggregator = kind.aggregator ∧
      artifact.registration = kind.registration request.entity := by
  obtain ⟨_, w₁, -, h⟩ := andThen_ok h
  obtain ⟨content, w₂, -, h⟩ := andThen_ok h
  cases h
  exact ⟨rfl, rfl, rfl⟩

/-- What is known of a project and an artifact that have been prepared. -/
structure Make.Ready (make : Make) (t : FileTree) (project : Project) (artifact : Artifact) :
    Prop where
  /-- The root holds a marker file. -/
  marked : t.isFile (project.root.join Project.marker) = true
  /-- The artifact is that of the entity that is named. -/
  named : ∃ entity, Entity.parse make.name = .ok entity ∧
    artifact.path = make.kind.path entity ∧ artifact.aggregator = make.kind.aggregator ∧
    artifact.registration = make.kind.registration entity

/-- What has been prepared comes of a project that is discovered, a request that is read and an
artifact that is generated. -/
theorem Make.stages_of_prepared {make : Make} {directory : Path} {w : Workspace}
    {project : Project} {artifact : Artifact}
    (h : make.prepared directory w = .ok (project, artifact)) :
    (∃ v v', v.files = w.files ∧
      (Project.discover directory : Action (StateM Workspace) Project).run v = (.ok project, v')) ∧
    ∃ request : Request,
      (∃ v v', (make.request project : Action (StateM Workspace) Request).run v =
        (.ok request, v')) ∧
      ∃ source v v', (request.generate make.kind source :
        Action (StateM Workspace) Artifact).run v = (.ok artifact, v') := by
  rcases hp : (make.prepare directory :
    ExceptT (Make.Stage × Failure) (StateM Workspace) (Project × Artifact)).run w with ⟨r, w'⟩
  obtain rfl : r = .ok (project, artifact) := by
    rw [← h, Make.prepared, hp]
  obtain ⟨project', w₁, hproject, hp⟩ := andThen_ok hp
  obtain ⟨request, w₂, hrequest, hp⟩ := andThen_ok hp
  obtain ⟨artifact', w₃, hartifact, hp⟩ := andThen_ok hp
  cases hp
  obtain ⟨v₁, hv, hproject⟩ := Make.enter_ok hproject
  obtain ⟨v₂, -, hrequest⟩ := Make.enter_ok hrequest
  obtain ⟨v₃, -, hartifact⟩ := Make.enter_ok hartifact
  obtain ⟨source, w₄, -, hgenerate⟩ := andThen_ok hartifact
  exact ⟨⟨v₁, w₁, hv, hproject⟩, request, ⟨v₂, w₂, hrequest⟩, source, w₄, _, hgenerate⟩

theorem ready_of_prepared {make : Make} {directory : Path} {w : Workspace} {project : Project}
    {artifact : Artifact} (h : make.prepared directory w = .ok (project, artifact)) :
    make.Ready w.files project artifact := by
  obtain ⟨⟨v, v', hv, hproject⟩, request, ⟨_, _, hrequest⟩, source, _, _, hgenerate⟩ :=
    Make.stages_of_prepared h
  obtain ⟨root, w₁, hlocate, hload⟩ := andThen_ok hproject
  refine ⟨?_, request.entity, entity_of_request hrequest, artifact_of_generate hgenerate⟩
  rw [root_of_load hload, ← hv]
  exact isFile_of_locate hlocate

/-! ## Whole runs -/

/-- The report of a failure after the events so far. -/
def Setting.failureReport (setting : Setting) (events : List Event) (failure : Failure) :
    Report where
  outcome := .failure failure.kind (setting.message failure)
  events :=
    events ++ [.failure (setting.word failure.kind.label) (setting.word (setting.message failure))]

namespace Make

/-- What is told while the command is under way. -/
def progress (make : Make) (setting : Setting) : Event :=
  .progress <| setting.say Catalog.generating
    [("kind", setting.word make.kind.label), ("name", Text.trim make.name)]

/-- Running the command in a workspace comes to a report and other files. -/
inductive Runs (make : Make) (setting : Setting) (w : Workspace) : Report → FileTree → Prop
  /-- The project is not found or the artifact not generated. -/
  | unprepared (stage : Stage) (failure : Failure)
    (h : make.prepared setting.directory w = .error (stage, failure)) :
    Runs make setting w (setting.failureReport [make.progress setting] failure) w.files
  /-- The artifact is generated and cannot be written. -/
  | unwritten (project : Project) (artifact : Artifact) (failure : Failure) (t : FileTree)
    (h : make.prepared setting.directory w = .ok (project, artifact))
    (hw : artifact.Writes project.root w.files (.error failure) t) :
    Runs make setting w (setting.failureReport [make.progress setting] failure) t
  /-- The artifact is written. -/
  | written (project : Project) (artifact : Artifact) (written : Written) (t : FileTree)
    (h : make.prepared setting.directory w = .ok (project, artifact))
    (hw : artifact.Writes project.root w.files (.ok written) t) :
    Runs make setting w
      ⟨.success written.path, [make.progress setting, make.succeeded setting artifact written]⟩ t

/-- A run leaves the files as they are, or it writes the artifact that it has prepared. -/
theorem Runs.files_eq_or_writes {make : Make} {setting : Setting} {w : Workspace} {report : Report}
    {t : FileTree} (h : make.Runs setting w report t) :
    t = w.files ∨ ∃ project artifact r,
      make.prepared setting.directory w = .ok (project, artifact) ∧
        artifact.Writes project.root w.files r t := by
  cases h with
  | unprepared => exact .inl rfl
  | unwritten project artifact failure _ h hw => exact .inr ⟨project, artifact, _, h, hw⟩
  | written project artifact written _ h hw => exact .inr ⟨project, artifact, _, h, hw⟩

/-- What the command reports once its stages have been run. -/
def reported (make : Make) (setting : Setting) :
    Except (Stage × Failure) (Artifact × Written) → Report
  | .ok (artifact, written) =>
    ⟨.success written.path, [make.progress setting, make.succeeded setting artifact written]⟩
  | .error (_, failure) => setting.failureReport [make.progress setting] failure

/-- A run that could prepare nothing reports that and leaves the files as they are. -/
theorem Runs.eq_of_unprepared {make : Make} {setting : Setting} {w : Workspace} {report : Report}
    {t : FileTree} {stage : Stage} {failure : Failure} (h : make.Runs setting w report t)
    (hp : make.prepared setting.directory w = .error (stage, failure)) :
    report = setting.failureReport [make.progress setting] failure ∧ t = w.files := by
  cases h with
  | unprepared _ _ hno =>
    cases hp.symm.trans hno
    exact ⟨rfl, rfl⟩
  | unwritten _ _ _ _ hq => cases hp.symm.trans hq
  | written _ _ _ _ hq => cases hp.symm.trans hq

/-- A run writes the artifact that it has prepared and reports what has come of it. -/
theorem Runs.writes_of_prepared {make : Make} {setting : Setting} {w : Workspace} {report : Report}
    {t : FileTree} {project : Project} {artifact : Artifact} (h : make.Runs setting w report t)
    (hp : make.prepared setting.directory w = .ok (project, artifact)) :
    (∃ failure, artifact.Writes project.root w.files (.error failure) t ∧
      report = setting.failureReport [make.progress setting] failure) ∨
    ∃ written, artifact.Writes project.root w.files (.ok written) t ∧
      report = make.reported setting (.ok (artifact, written)) := by
  cases h with
  | unprepared _ _ hno => cases hp.symm.trans hno
  | unwritten _ _ failure _ hq hw =>
    cases hp.symm.trans hq
    exact .inl ⟨failure, hw, rfl⟩
  | written _ _ written _ hq hw =>
    cases hp.symm.trans hq
    exact .inr ⟨written, hw, rfl⟩

theorem run_of_perform (make : Make) (setting : Setting) {w w' : Workspace}
    {r : Except (Stage × Failure) (Artifact × Written)}
    (h : (make.perform setting.directory :
      ExceptT (Stage × Failure) (StateM Workspace) (Artifact × Written)).run w = (r, w')) :
    ((make.run setting : StateM Workspace Report) w).1 = make.reported setting r ∧
      ((make.run setting : StateM Workspace Report) w).2.files = w'.files := by
  simp only [Make.run, bind, StateT.bind, h]
  rcases r with ⟨stage, failure⟩ | ⟨artifact, written⟩ <;> exact ⟨rfl, rfl⟩

theorem runs_of_run (make : Make) (setting : Setting) (w : Workspace) :
    make.Runs setting w ((make.run setting : StateM Workspace Report) w).1
      ((make.run setting : StateM Workspace Report) w).2.files := by
  have hk := keeps_prepare (R := Eq) make setting.directory w
  rcases hp : (make.perform setting.directory :
    ExceptT (Stage × Failure) (StateM Workspace) (Artifact × Written)).run w with ⟨r, w'⟩
  obtain ⟨hr, hf⟩ := run_of_perform make setting hp
  rw [hr, hf]
  rw [perform_eq] at hp
  obtain ⟨⟨stage, failure⟩, hq, rfl⟩ | ⟨⟨project, artifact⟩, w₁, hq, hw⟩ := andThen_cases hp
  · rw [hq] at hk
    rw [← hk]
    exact .unprepared stage failure (congrArg Prod.fst hq)
  · rw [hq] at hk
    replace hq : make.prepared setting.directory w = .ok (project, artifact) :=
      congrArg Prod.fst hq
    obtain ⟨w₂, hw₂, he⟩ := run_enter .rendering .writing (artifact.write project.root) w₁
    rw [run_andThen, he] at hw
    rcases hr : (artifact.write project.root : Action (StateM Workspace) Written).run w₂ with
      ⟨failure | written, w₃⟩
    · simp only [hr, mapError_error] at hw
      cases hw
      refine .unwritten project artifact failure _ hq ?_
      rw [hk, ← hw₂]
      exact writes_of_write hr
    · simp only [hr, mapError_ok, run_ok] at hw
      cases hw
      refine .written project artifact written _ hq ?_
      rw [hk, ← hw₂]
      exact writes_of_write hr

end Make

end Groundwork
