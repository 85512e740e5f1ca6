import Groundwork.Proofs.Artifact.PrintedController
import Groundwork.Proofs.Command.Finding

/-!
# Commands that succeed

A command succeeds in a plain project whose templates are those of the library, if its
specifications can be read, unless its file is there already or a path is too long
(`Make.run_success`). Every stage before the writing is shown to succeed by itself; together they
prepare the artifact that the templates of the project make (`Make.prepared_of_generate`). What a
run comes to then is a matter of the file: it is written if it is not there (`Make.Runs.success`)
and refused if it is (`Make.Runs.taken`). Settings that cannot be understood are refused before
that, and then an entity that cannot be read (`Make.prepared_of_settings_refused`,
`Make.prepared_of_refused`).
-/

namespace Groundwork

open Text Groundwork.Path Workspace

/-- From `start` the project at `root` is found, with some settings. -/
structure Project.Found (start root : Path) (settings : Settings) (t : FileTree) : Prop where
  /-- The root is located. -/
  located : ((Project.locate start : Action (StateM Workspace) Path).run ⟨t, []⟩).1 = .ok root
  /-- The marker file holds the settings. -/
  marked : ∃ bytes text, t.read (root.join Project.marker) = .ok bytes ∧
    decode? bytes = some text ∧ Settings.ofText? text = some settings

/-- A project without links that stays the one found from `start` while artifacts are made in it. -/
structure Project.Steady (start root : Path) (here : Location) (settings : Settings)
    (t : FileTree) : Prop where
  /-- There are no links where artifacts are written. -/
  plain : Plain t root here
  /-- The project is found and will be found. -/
  settled : Project.Settled start root t
  /-- The marker file holds the settings. -/
  marked : ∃ bytes text, t.entry? (Project.marker.text :: here) = some (.file bytes) ∧
    decode? bytes = some text ∧ Settings.ofText? text = some settings
  /-- The path of the marker file is not too long. -/
  short : byteLength (root.join Project.marker).text ≤ FileTree.pathLimit

/-- The specifications of a command spell a request, under some settings. -/
structure Make.Spells (make : Make) (settings : Settings) (request : Request) : Prop where
  /-- The entity is the one named. -/
  entity : Entity.parse make.name = .ok request.entity
  /-- The fields are those given. -/
  fields : Field.parseList make.fields = .ok request.fields
  /-- The relationships are those given. -/
  relationships : Relationship.parseList make.relationships = .ok request.relationships
  /-- The project decides on the columns for times if the command does not. -/
  timestamps : request.timestamps = make.timestamps.getD settings.generator.timestamps

variable {start root : Path} {settings : Settings} {make : Make} {request : Request}

theorem Project.Steady.found {here : Location} {t : FileTree}
    (h : Steady start root here settings t) : Found start root settings t where
  located := locate_of_settled h.settled
  marked := by
    obtain ⟨bytes, text, hentry, hdecode, hsettings⟩ := h.marked
    obtain ⟨links, hreaches⟩ := h.plain.reaches
    exact ⟨bytes, text, FileTree.read_name hreaches isName_marker (by decide) h.short hentry,
      hdecode, hsettings⟩

/-! ## Stages -/

theorem run_readText {p : Path} {bytes : List UInt8} {text : String} {w : Workspace}
    (hr : w.files.read p = .ok bytes) (hd : decode? bytes = some text) :
    (FileStore.readText p : StateM Workspace (Except FileError String)) w = (.ok text, w) := by
  simp only [FileStore.readText, bind, StateT.bind, run_read, hr, hd]
  rfl

theorem run_attempt_readText {p : Path} {bytes : List UInt8} {text : String} {w : Workspace}
    (hr : w.files.read p = .ok bytes) (hd : decode? bytes = some text) :
    (Action.attempt p (FileStore.readText p) : Action (StateM Workspace) String).run w =
      (.ok text, w) := by
  rw [run_attempt, run_readText hr hd]
  rfl

section

variable {bytes : List UInt8} {text : String} {w : Workspace}
  (hread : w.files.read (root.join Project.marker) = .ok bytes)
  (hdecode : decode? bytes = some text)

include hread hdecode

/-- A project is loaded if its marker file gives settings. -/
theorem run_load (hsettings : Settings.ofText? text = some settings) :
    ∃ w', (Project.load root : Action (StateM Workspace) Project).run w =
      (.ok ⟨root, settings⟩, w') := by
  rw [Project.load, andThen_of_ok (run_attempt_readText hread hdecode)]
  simp only [hsettings]
  rw [andThen_of_ok (run_note _ _ _ _), run_ok]
  exact ⟨_, rfl⟩

theorem run_load_refused (hsettings : Settings.ofText? text = none) :
    (Project.load root : Action (StateM Workspace) Project).run w = (.error .settings, w) := by
  rw [Project.load, andThen_of_ok (run_attempt_readText hread hdecode)]
  simp only [hsettings, run_fail]

end

theorem run_locate_of_files {w : Workspace}
    (h : ((Project.locate start : Action (StateM Workspace) Path).run ⟨w.files, []⟩).1 = .ok root) :
    (Project.locate start : Action (StateM Workspace) Path).run w = (.ok root, w) := by
  rw [run_locate] at h ⊢
  exact Prod.ext h rfl

theorem run_discover {w : Workspace} (h : Project.Found start root settings w.files) :
    ∃ w', (Project.discover start : Action (StateM Workspace) Project).run w =
      (.ok ⟨root, settings⟩, w') := by
  obtain ⟨bytes, text, hread, hdecode, hsettings⟩ := h.marked
  rw [Project.discover, andThen_of_ok (run_locate_of_files h.located)]
  exact run_load hread hdecode hsettings

theorem run_entry {α : Type} {x : Except EntryError α} {a : α} (h : x = .ok a) (w : Workspace) :
    (Action.entry x : Action (StateM Workspace) α).run w = (.ok a, w) := by
  subst h
  rfl

theorem run_warn (what : String) (names : List String) (w : Workspace) :
    ∃ w', (Make.warn what names : Action (StateM Workspace) Unit).run w = (.ok (), w') := by
  unfold Make.warn
  induction Entry.repeated [] names generalizing w with
  | nil => exact ⟨w, rfl⟩
  | cons name names ih =>
    obtain ⟨w', h⟩ := ih { w with log := w.log ++ [_] }
    exact ⟨w', (andThen_of_ok (run_note _ _ _ w)).trans h⟩

theorem run_request {project : Project} (h : make.Spells project.settings request)
    (w : Workspace) :
    ∃ w', (make.request project : Action (StateM Workspace) Request).run w =
      (.ok request, w') := by
  obtain ⟨w₁, h₁⟩ := run_warn "field" (request.fields.map (·.name)) w
  obtain ⟨w₂, h₂⟩ := run_warn "relationship" (request.relationships.map (·.name)) w₁
  refine ⟨w₂, ?_⟩
  rw [Make.request, andThen_of_ok (run_entry h.entity _), andThen_of_ok (run_entry h.fields _),
    andThen_of_ok h₁, andThen_of_ok (run_entry h.relationships _), andThen_of_ok h₂,
    ← h.timestamps]
  rfl

theorem run_templates {project : Project} (h : project.settings.generator.templates = none)
    (w : Workspace) :
    (project.templates : Action (StateM Workspace) TemplateSource).run w = (.ok .library, w) := by
  simp only [Project.templates, h, run_ok]

theorem enter_of_ok {α : Type} {stage next : Make.Stage} {action : Action (StateM Workspace) α}
    {a : α} {w : Workspace}
    (h : ∀ w₁ : Workspace, w₁.files = w.files → ∃ w', action.run w₁ = (.ok a, w')) :
    ∃ w', (Make.enter stage next action).run w = (.ok a, w') := by
  obtain ⟨w₁, hw, he⟩ := Make.run_enter stage next action w
  obtain ⟨w', hr⟩ := h w₁ hw
  exact ⟨w', by rw [he, hr]; rfl⟩

theorem enter_of_error {α : Type} {stage next : Make.Stage}
    {action : Action (StateM Workspace) α} {failure : Failure} {w : Workspace}
    (h : ∀ w₁ : Workspace, w₁.files = w.files → ∃ w', action.run w₁ = (.error failure, w')) :
    ∃ w', (Make.enter stage next action).run w = (.error (next, failure), w') := by
  obtain ⟨w₁, hw, he⟩ := Make.run_enter stage next action w
  obtain ⟨w', hr⟩ := h w₁ hw
  exact ⟨w', by rw [he, hr]; rfl⟩

/-! ## Generating -/

namespace Request

/-- Generates the artifact of a kind in a project, with the templates of the project. -/
def generateIn (request : Request) (kind : ArtifactKind) (project : Project) :
    Action (StateM Workspace) Artifact := do
  let source ← project.templates
  request.generate kind source

/-- In a project without a directory of templates the library makes the artifact. -/
theorem generateIn_of_none {project : Project} {kind : ArtifactKind} (request : Request)
    (h : project.settings.generator.templates = none) (w : Workspace) :
    (request.generateIn kind project).run w =
      (request.generate kind .library : Action (StateM Workspace) Artifact).run w := by
  rw [generateIn, andThen_of_ok (run_templates h w)]

/-- The library has a template of each kind, which can be rendered for every request. -/
theorem exists_render (request : Request) (kind : ArtifactKind) :
    ∃ text content, Template.Library.source? kind.templateName = some text ∧
      Template.render text request.scope = .ok content := by
  cases kind with
  | model => exact ⟨_, _, source?_model, render_model request⟩
  | controller => exact ⟨_, _, source?_controller, render_controller request⟩

end Request

/-! ## Preparing -/

namespace Make

variable {w : Workspace} {artifact : Artifact} {text content : String}

/-- A project that is found is discovered, and its files are as they were. -/
theorem exists_discovered (hp : Project.Found start root settings w.files) :
    ∃ w' : Workspace, w.files = w'.files ∧
      (enter .idle .validatingContext (Project.discover start) :
        ExceptT (Stage × Failure) (StateM Workspace) Project).run w =
          (.ok ⟨root, settings⟩, w') := by
  have hdiscover : ∃ w', (enter .idle .validatingContext (Project.discover start) :
      ExceptT (Stage × Failure) (StateM Workspace) Project).run w = (.ok ⟨root, settings⟩, w') :=
    enter_of_ok fun v hv => run_discover (by rwa [hv])
  obtain ⟨w', hdiscover⟩ := hdiscover
  have hk : Keeps Eq (enter .idle .validatingContext (Project.discover start) :
      ExceptT (Stage × Failure) (StateM Workspace) Project).run := keeps_enter (keeps_discover _)
  exact ⟨w', by simpa [hdiscover] using hk w, hdiscover⟩

/-- The preparation of the artifact that the templates of the project make. -/
theorem prepared_of_generate (hp : Project.Found start root settings w.files)
    (hs : make.Spells settings request)
    (hg : ∀ v : Workspace, v.files = w.files →
      ∃ v', (request.generateIn make.kind ⟨root, settings⟩).run v = (.ok artifact, v')) :
    make.prepared start w = .ok (⟨root, settings⟩, artifact) := by
  obtain ⟨w₁, hw₁, hdiscover⟩ := exists_discovered hp
  have hrequest : ∃ w₂, (enter .validatingContext .parsing (make.request ⟨root, settings⟩) :
      ExceptT (Stage × Failure) (StateM Workspace) Request).run w₁ = (.ok request, w₂) :=
    enter_of_ok fun w₂ _ => run_request hs w₂
  obtain ⟨w₂, hrequest⟩ := hrequest
  have hw₂ : w₁.files = w₂.files := by
    have hk : Keeps Eq (enter .validatingContext .parsing (make.request ⟨root, settings⟩) :
        ExceptT (Stage × Failure) (StateM Workspace) Request).run := keeps_enter (keeps_request _ _)
    simpa [hrequest] using hk w₁
  have hartifact : ∃ w₃, (enter .parsing .rendering
      (request.generateIn make.kind ⟨root, settings⟩) :
        ExceptT (Stage × Failure) (StateM Workspace) Artifact).run w₂ = (.ok artifact, w₃) :=
    enter_of_ok fun w₃ hw => hg w₃ (by rw [hw, hw₁, hw₂])
  obtain ⟨w₃, hartifact⟩ := hartifact
  rw [Request.generateIn] at hartifact
  rw [prepared, prepare, andThen_of_ok hdiscover, andThen_of_ok hrequest, andThen_of_ok hartifact]
  rfl

/-- The preparation of the artifact that the library's template of its kind makes. -/
theorem prepared_of_render (hp : Project.Found start root settings w.files)
    (ht : settings.generator.templates = none) (hs : make.Spells settings request)
    (hsource : Template.Library.source? make.kind.templateName = some text)
    (hrender : Template.render text request.scope = .ok content) :
    make.prepared start w = .ok (⟨root, settings⟩, request.artifact make.kind content) := by
  refine prepared_of_generate hp hs fun v _ => ?_
  obtain ⟨v', hgenerate, -⟩ := request.run_generate hsource hrender v
  exact ⟨v', (request.generateIn_of_none ht v).trans hgenerate⟩

/-- In a project with the templates of the library every request is prepared. -/
theorem exists_prepared (hp : Project.Found start root settings w.files)
    (ht : settings.generator.templates = none) (hs : make.Spells settings request) :
    ∃ content,
      make.prepared start w = .ok (⟨root, settings⟩, request.artifact make.kind content) := by
  obtain ⟨text, content, hsource, hrender⟩ := request.exists_render make.kind
  exact ⟨content, prepared_of_render hp ht hs hsource hrender⟩

/-- An entity that cannot be read is refused before anything else. -/
theorem prepared_of_refused {cause : EntryError} (hp : Project.Found start root settings w.files)
    (hname : Entity.parse make.name = .error cause) :
    make.prepared start w = .error (.parsing, .entry cause) := by
  obtain ⟨w₁, -, hdiscover⟩ := exists_discovered hp
  have hrequest (v : Workspace) :
      (make.request ⟨root, settings⟩ : Action (StateM Workspace) Request).run v =
        (.error (.entry cause), v) := by
    have hentity : (Action.entry (Entity.parse make.name) :
        Action (StateM Workspace) Entity).run v = (.error (.entry cause), v) := by
      rw [hname]
      rfl
    exact andThen_of_error hentity
  have hparsing : ∃ w₂, (enter .validatingContext .parsing (make.request ⟨root, settings⟩) :
      ExceptT (Stage × Failure) (StateM Workspace) Request).run w₁ =
        (.error (.parsing, .entry cause), w₂) :=
    enter_of_error fun v _ => ⟨v, hrequest v⟩
  obtain ⟨w₂, hparsing⟩ := hparsing
  rw [prepared, prepare, andThen_of_ok hdiscover, andThen_of_error hparsing]

/-- Settings that cannot be understood are refused first. -/
theorem prepared_of_settings_refused {bytes : List UInt8}
    (hlocated : ((Project.locate start : Action (StateM Workspace) Path).run ⟨w.files, []⟩).1 =
      .ok root)
    (hread : w.files.read (root.join Project.marker) = .ok bytes)
    (hdecode : decode? bytes = some text) (hsettings : Settings.ofText? text = none) :
    make.prepared start w = .error (.validatingContext, .settings) := by
  have hdiscover : ∃ w₁, (enter .idle .validatingContext (Project.discover start) :
      ExceptT (Stage × Failure) (StateM Workspace) Project).run w =
        (.error (.validatingContext, .settings), w₁) := by
    refine enter_of_error fun v hv => ⟨v, ?_⟩
    rw [← hv] at hlocated hread
    rw [Project.discover, andThen_of_ok (run_locate_of_files hlocated)]
    exact run_load_refused hread hdecode hsettings
  obtain ⟨w₁, hdiscover⟩ := hdiscover
  rw [prepared, prepare, andThen_of_error hdiscover]

/-! ## Whole runs -/

namespace Runs

variable {here : Location} {setting : Setting} {report : Report} {t : FileTree} {entity : Entity}

section

variable (h : make.Runs setting w report t) (hplain : Plain w.files root here)
  (hprepared : make.prepared setting.directory w = .ok (⟨root, settings⟩, artifact))
  (hentity : Entity.parse make.name = .ok entity) (hfits : make.kind.Fits root entity)

include h hplain hprepared hentity hfits

/-- An artifact that has been prepared in a plain project is written if its file is not there. -/
theorem success (hfree : w.files.entry? (make.kind.place here (make.kind.fileName entity)) = none) :
    report.outcome = .success (root.join (make.kind.path entity)) := by
  obtain ⟨-, entity', hentity', hpath, hagg, -⟩ := ready_of_prepared hprepared
  obtain rfl := Except.ok.inj (hentity.symm.trans hentity')
  obtain ⟨failure, hwrites, -⟩ | ⟨written, hwrites, rfl⟩ := h.writes_of_prepared hprepared
  · obtain ⟨written, hok⟩ := ok_of_writes hplain (Entity.wellNamed_of_parse hentity) hpath hagg
      hfree hfits.name (by rw [hpath]; exact hfits.path) hfits.aggregator hwrites
    cases hok
  · rw [← hpath]
    exact congrArg Outcome.success hwrites.path_eq

/-- An artifact that has been prepared in a plain project is not written over its file. -/
theorem taken {bytes : List UInt8}
    (hfile : w.files.entry? (make.kind.place here (make.kind.fileName entity)) =
      some (.file bytes)) :
    report.outcome = .failure .alreadyExists
        (setting.message (.alreadyExists (root.join (make.kind.path entity)))) ∧ t = w.files := by
  obtain ⟨-, entity', hentity', hpath, -, -⟩ := ready_of_prepared hprepared
  obtain rfl := Except.ok.inj (hentity.symm.trans hentity')
  have hread := hplain.read (Entity.wellNamed_of_parse hentity) hpath
    ⟨by rw [hpath]; exact hfits.path, hfits.name⟩ hfile
  have htaken := FileTree.has_of_read hread
  obtain ⟨failure, hwrites, rfl⟩ | ⟨written, hwrites, -⟩ := h.writes_of_prepared hprepared
  · obtain ⟨hfailure, hsame⟩ := hwrites.eq_of_has htaken
    cases hfailure
    rw [← hpath]
    exact ⟨rfl, hsame⟩
  · cases (hwrites.eq_of_has htaken).1

end

/-- A command for an entity that cannot be read leaves the files as they are. -/
theorem refused {cause : EntryError} (h : make.Runs setting w report t)
    (hp : Project.Found setting.directory root settings w.files)
    (hname : Entity.parse make.name = .error cause) :
    report.outcome = .failure .input (setting.message (.entry cause)) ∧ t = w.files := by
  obtain ⟨rfl, hsame⟩ := h.eq_of_unprepared (prepared_of_refused hp hname)
  exact ⟨rfl, hsame⟩

end Runs

/-- A command succeeds in a plain project whose templates are those of the library, if its
specifications can be read, unless its file is there or a path is too long. -/
theorem run_success {here : Location} (hplain : Plain w.files root here) (setting : Setting)
    (hp : Project.Found setting.directory root settings w.files)
    (ht : settings.generator.templates = none) (hs : make.Spells settings request)
    (hfits : make.kind.Fits root request.entity)
    (hfree : w.files.entry? (make.kind.place here (make.kind.fileName request.entity)) = none) :
    ((make.run setting : StateM Workspace Report) w).1.outcome =
      .success (root.join (make.kind.path request.entity)) := by
  obtain ⟨content, hprepared⟩ := exists_prepared hp ht hs
  exact (runs_of_run make setting w).success hplain hprepared hs.entity hfits hfree

end Make

/-! ## A project with one model -/

/-- A project in the root directory with one model. The aggregator of models ends in a line that is
open and is no text. -/
def shop : FileTree :=
  ⟨[(["__init__.py", "models"], .file [0xFF, 0x41]), (["produto.py", "models"], .file []),
    (["models"], .directory), (["oryum.json"], .file [])]⟩

namespace shop

theorem rooted : shop.Rooted := FileTree.rooted_of_entries (by decide)

theorem reaches_models : shop.Reaches ⟨"/models"⟩ FileTree.linkLimit ["models"] :=
  FileTree.reaches_of_steps (by decide) (by decide) (by decide) (by decide) rfl

theorem plain : Plain shop ⟨"/"⟩ [] where
  rooted := rooted
  reaches := ⟨_, FileTree.reaches_root shop⟩
  directory kind := by cases kind <;> decide
  aggregator kind := by
    cases kind with
    | model => exact .inr ⟨_, rfl⟩
    | controller => exact .inl rfl

/-- The project is found from the directory of models. -/
theorem steady : Project.Steady ⟨"/models"⟩ ⟨"/"⟩ [] {} shop where
  plain := plain
  settled :=
    { unmarked := by
        refine ⟨[⟨"/models"⟩], [], by decide, fun directory hm => ?_⟩
        obtain rfl := List.mem_singleton.1 hm
        exact unmarked_of_missing reaches_models rfl
      isMarked := isMarked_of_file (FileTree.reaches_root shop) rfl (short_marker (by decide)) }
  marked := ⟨[], "", rfl, by decide, by decide⟩
  short := short_marker (by decide)

end shop

namespace Make

/-- The command that makes the model of products in the root directory. -/
def makeProduct : Make × Setting := (⟨.model, "Produto", none, none, none⟩, ⟨⟨"/"⟩, .english⟩)

/-- The request that the command spells. -/
def productRequest : Request := ⟨⟨"Produto", "produto"⟩, [], [], true⟩

theorem spells_makeProduct : makeProduct.1.Spells {} productRequest :=
  ⟨by decide +kernel, rfl, rfl, rfl⟩

end Make

end Groundwork
