import Groundwork.Proofs.Artifact.PrintedController
import Groundwork.Proofs.Command.Success
import Groundwork.Proofs.Files.Subtree
import Groundwork.Proofs.Files.Vacancy

/-!
# Templates in a directory

A directory of templates stands over the library. A name is looked for below the directory only: one
that could lead out of it is not looked for at all (`Path.Strays`, `Path.goesDown_iff`), so that two
trees that are the same below the directory give the same template
(`TemplateSource.load_directory`). What is missing there comes from the library, and what is there
and cannot be read is not passed over. A project whose directory lacks the template of a kind makes
the artifacts that a project without a directory makes.
-/

namespace Groundwork

open Text Groundwork.Path Workspace

/-! ## Names that stray -/

namespace Path

/-- A path that could lead out of the directory that it is joined to, or begins with a point. -/
inductive Strays (p : Path) : Prop
  /-- It begins at the root. -/
  | root (h : isAbsoluteChars p.text.toList = true)
  /-- It leads up somewhere. -/
  | up (h : ".." ∈ p.steps)
  /-- Its first segment is a point. -/
  | point (h : (pieces '/' p.text.toList).head? = some ['.'])

theorem lead_eq_nil_iff {cs : List Char} :
    lead cs = [] ↔ isAbsoluteChars cs = false ∧ (pieces '/' cs).head? ≠ some ['.'] := by
  unfold lead
  split
  · exact ⟨nofun, fun ⟨h, _⟩ => nomatch h⟩
  · exact ⟨nofun, fun ⟨_, h⟩ => absurd rfl h⟩
  · exact ⟨nofun, fun ⟨_, h⟩ => absurd (by simp [pieces]) h⟩
  · next hslash hpoint hlead =>
    refine ⟨fun _ => ⟨not_absolute_of_forall hslash, fun hhead => ?_⟩, fun _ => rfl⟩
    rcases hp : pieces '/' cs with _ | ⟨first, rest⟩
    · exact pieces_ne_nil '/' cs hp
    · rw [hp] at hhead
      obtain rfl := Option.some.inj hhead
      rw [← join_pieces '/' cs, hp] at hpoint hlead
      cases rest with
      | nil => exact hpoint rfl
      | cons next rest => exact hlead _ rfl

theorem up_mem_steps_iff {p : Path} : ".." ∈ p.steps ↔ ['.', '.'] ∈ pieces '/' p.text.toList := by
  have hup : ".." = String.ofList ['.', '.'] := rfl
  rw [steps, hup, List.mem_map_of_injective (fun _ _ => String.ofList_inj.1), List.mem_filter]
  simp

/-- A name is looked for exactly if it does not stray. -/
theorem goesDown_iff {p : Path} : p.goesDown = true ↔ ¬ p.Strays := by
  rw [goesDown, Bool.and_eq_true, beq_iff_eq, List.all_eq_true]
  constructor
  · rintro ⟨hlead, hsegs⟩ hstrays
    obtain ⟨hroot, hpoint⟩ := lead_eq_nil_iff.1 hlead
    cases hstrays with
    | root h => exact absurd h (by simp [hroot])
    | up h =>
      have hmem : ['.', '.'] ∈ segments p.text.toList := by
        rw [segments, hlead]
        exact List.mem_reverse.2 (up_mem_steps_iff.1 h)
      exact absurd (hsegs _ hmem) (by decide)
    | point h => exact hpoint h
  · intro h
    have hlead : lead p.text.toList = [] :=
      lead_eq_nil_iff.2 ⟨Bool.eq_false_iff.2 fun hroot => h (.root hroot), fun hp => h (.point hp)⟩
    refine ⟨hlead, fun s hs => ?_⟩
    rw [segments, hlead] at hs
    have hne : s ≠ ['.', '.'] := by
      rintro rfl
      exact h (.up (up_mem_steps_iff.2 (List.mem_reverse.1 hs)))
    simpa using hne

end Path

/-! ## Loading -/

namespace TemplateSource

variable {w : Workspace} {root : Path} {name : String}

/-- What is loaded from a directory of templates in a workspace. -/
def loadFrom (root : Path) (name : String) (w : Workspace) : Except FileError (Option String) :=
  ((load name (.directory root) : StateM Workspace (Except FileError (Option String))) w).1

/-- What is loaded when a name has been looked for: the text that is there, or the template of the
library if nothing is there. -/
def loaded (name : String) : Except FileError (List UInt8) → Except FileError (Option String)
  | .ok bytes =>
    match decode? bytes with
    | some text => .ok (some text)
    | none => .error .notText
  | .error .notFound => .ok (Template.Library.source? name)
  | .error cause => .error cause

theorem load_of_strays (h : (⟨name⟩ : Path).Strays) (w : Workspace) :
    (load name (.directory root) : StateM Workspace (Except FileError (Option String))) w =
      (.ok none, w) := by
  have hdown : (⟨name⟩ : Path).goesDown = false :=
    Bool.eq_false_iff.2 fun hdown => goesDown_iff.1 hdown h
  simp only [load, hdown, Bool.false_eq_true, if_false]
  rfl

theorem load_of_not_strays (h : ¬ (⟨name⟩ : Path).Strays) (w : Workspace) :
    loadFrom root name w = loaded name (w.files.read (root.join ⟨name⟩)) := by
  simp only [loadFrom, load, goesDown_iff.2 h, if_true, FileStore.readText, bind, StateT.bind,
    run_read]
  rcases w.files.read (root.join ⟨name⟩) with cause | bytes
  · cases cause <;> rfl
  · rcases hdecode : decode? bytes with _ | text
    · simp only [loaded, hdecode]
      rfl
    · simp only [loaded, hdecode]
      rfl

/-- What is in the directory is rendered. -/
theorem run_render_of_read {bytes : List UInt8} {text content : String} {scope : Template.Scope}
    (h : ¬ (⟨name⟩ : Path).Strays) (hread : w.files.read (root.join ⟨name⟩) = .ok bytes)
    (hdecode : decode? bytes = some text) (hrender : Template.render text scope = .ok content) :
    ∃ w', (render (.directory root) name scope : Action (StateM Workspace) String).run w =
      (.ok content, w') := by
  have hload : loadFrom root name w = loaded name (.ok bytes) := by
    rw [load_of_not_strays h, hread]
  rw [loadFrom] at hload
  simp only [loaded, hdecode] at hload
  rw [render, run_andThen, run_step]
  simp only [hload, hrender]
  exact ⟨_, run_ok _ _⟩

/-- What is missing in the directory is what the library has, and nothing is noted. -/
theorem load_of_notFound (h : ¬ (⟨name⟩ : Path).Strays)
    (hread : w.files.read (root.join ⟨name⟩) = .error .notFound) :
    (load name (.directory root) : StateM Workspace (Except FileError (Option String))) w =
      (load name .library : StateM Workspace (Except FileError (Option String))) w := by
  simp only [load, goesDown_iff.2 h, if_true, FileStore.readText, bind, StateT.bind, run_read,
    hread]
  rfl

end TemplateSource

/-! ## Generating -/

namespace Request

variable {w : Workspace} {root : Path} {kind : ArtifactKind}

/-- The names of the templates of artifacts do not stray. -/
theorem not_strays_templateName (kind : ArtifactKind) :
    ¬ (⟨kind.templateName⟩ : Path).Strays := by
  rw [← goesDown_iff]
  cases kind <;> decide

/-- Every request has an artifact of each kind that the template of the library makes. -/
theorem exists_artifact (request : Request) (kind : ArtifactKind) :
    ∃ artifact, ∀ w : Workspace, ∃ w',
      (request.generate kind .library : Action (StateM Workspace) Artifact).run w =
        (.ok artifact, w') := by
  obtain ⟨text, content, hsource, hrender⟩ := request.exists_render kind
  refine ⟨request.artifact kind content, fun w => ?_⟩
  obtain ⟨w', hrun, -⟩ := request.run_generate hsource hrender w
  exact ⟨w', hrun⟩

/-- A directory that lacks the template of a kind makes no difference to what is generated. -/
theorem generate_of_notFound (request : Request)
    (hread : w.files.read (root.join ⟨kind.templateName⟩) = .error .notFound) :
    (request.generate kind (.directory root) : Action (StateM Workspace) Artifact).run w =
      (request.generate kind .library : Action (StateM Workspace) Artifact).run w := by
  have hrender (log : List Log.Record) :
      (TemplateSource.render (.directory root) kind.templateName request.scope :
        Action (StateM Workspace) String).run ⟨w.files, log⟩ =
        (TemplateSource.render .library kind.templateName request.scope :
          Action (StateM Workspace) String).run ⟨w.files, log⟩ := by
    rw [TemplateSource.render, TemplateSource.render, run_andThen, run_andThen, run_step, run_step,
      TemplateSource.load_of_notFound (not_strays_templateName kind) (by exact hread)]
  rw [generate, generate, andThen_of_ok (run_note _ _ _ _), andThen_of_ok (run_note _ _ _ _),
    run_andThen, run_andThen, hrender]

variable {project : Project} {directory : Path}

theorem run_templates_directory (h : project.settings.generator.templates = some directory)
    (w : Workspace) :
    ∃ log, (project.templates : Action (StateM Workspace) TemplateSource).run w =
      (.ok (.directory (project.root.join directory)), ⟨w.files, log⟩) := by
  simp only [Project.templates, h]
  exact ⟨_, andThen_of_ok (run_note _ _ _ _)⟩

/-- In a project with a directory of templates that has one of the kind, this makes the artifact. -/
theorem generateIn_of_read (request : Request) {bytes : List UInt8} {text content : String}
    (h : project.settings.generator.templates = some directory)
    (hread : w.files.read ((project.root.join directory).join ⟨kind.templateName⟩) = .ok bytes)
    (hdecode : decode? bytes = some text)
    (hrender : Template.render text request.scope = .ok content) :
    ∃ w', (request.generateIn kind project).run w = (.ok (request.artifact kind content), w') := by
  obtain ⟨log, htemplates⟩ := run_templates_directory h w
  obtain ⟨v, hv, hgenerate⟩ : ∃ v : Workspace, v.files = w.files ∧
      (request.generate kind (.directory (project.root.join directory)) :
        Action (StateM Workspace) Artifact).run ⟨w.files, log⟩ =
          ((TemplateSource.directory (project.root.join directory)).render kind.templateName
            request.scope >>= fun content => pure (request.artifact kind content) :
              Action (StateM Workspace) Artifact).run v := by
    refine ⟨_, ?_, andThen_of_ok (run_note _ _ _ _)⟩
    rfl
  obtain ⟨w', hsource⟩ := TemplateSource.run_render_of_read (not_strays_templateName kind)
    (hv ▸ hread) hdecode hrender
  rw [generateIn, andThen_of_ok htemplates, hgenerate, andThen_of_ok hsource]
  exact ⟨w', run_ok _ _⟩

/-- In a project with a directory of templates that has none of the kind, so does the library. -/
theorem generateIn_of_notFound (request : Request)
    (h : project.settings.generator.templates = some directory)
    (hread : w.files.read ((project.root.join directory).join ⟨kind.templateName⟩) =
      .error .notFound) :
    ∃ log, (request.generateIn kind project).run w =
      (request.generate kind .library : Action (StateM Workspace) Artifact).run ⟨w.files, log⟩ := by
  obtain ⟨log, htemplates⟩ := run_templates_directory h w
  refine ⟨log, ?_⟩
  rw [generateIn, andThen_of_ok htemplates]
  exact generate_of_notFound request hread

end Request

namespace TemplateSource

/-- **Templates in a directory are confined to it, over those of the library.** What is loaded
depends on the tree at and below the directory only, where no links are there. A name that begins at
the root or with a point or leads up is not looked for. For any other name the text of the file is
loaded that it leads to, or if it leads to nothing the template that the library has, if any; a file
that is no text and every other cause for which it cannot be read are errors. So a project whose
directory has nothing for the template of a kind makes the same artifact as a project without a
directory does, whatever is requested. -/
theorem load_directory (root : Path) (name : String) :
    (∀ w w' : Workspace, FileTree.SameBelow root w.files w'.files →
      loadFrom root name w = loadFrom root name w') ∧
    ((⟨name⟩ : Path).Strays → ∀ w, loadFrom root name w = .ok none) ∧
    (¬ (⟨name⟩ : Path).Strays → ∀ w,
      (∀ bytes text, w.files.read (root.join ⟨name⟩) = .ok bytes → decode? bytes = some text →
        loadFrom root name w = .ok (some text)) ∧
      (w.files.read (root.join ⟨name⟩) = .error .notFound →
        loadFrom root name w =
          ((load name .library : StateM Workspace (Except FileError (Option String))) w).1) ∧
      (∀ bytes, w.files.read (root.join ⟨name⟩) = .ok bytes → decode? bytes = none →
        loadFrom root name w = .error .notText) ∧
      ∀ cause, w.files.read (root.join ⟨name⟩) = .error cause → cause ≠ .notFound →
        loadFrom root name w = .error cause) ∧
    ∀ (kind : ArtifactKind) (project plain : Project) (directory : Path) (request : Request)
      (w w' : Workspace), project.settings.generator.templates = some directory →
      plain.settings.generator.templates = none →
      w.files.read ((project.root.join directory).join ⟨kind.templateName⟩) = .error .notFound →
        ∃ artifact, ((request.generateIn kind project).run w).1 = .ok artifact ∧
          ((request.generateIn kind plain).run w').1 = .ok artifact := by
  refine ⟨?_, ?_, ?_, ?_⟩
  · intro w w' hsame
    by_cases hstrays : (⟨name⟩ : Path).Strays
    · rw [loadFrom, loadFrom, load_of_strays hstrays, load_of_strays hstrays]
    · have hrelative : isAbsoluteChars name.toList = false :=
        Bool.eq_false_iff.2 fun hroot => hstrays (.root hroot)
      rw [load_of_not_strays hstrays, load_of_not_strays hstrays,
        FileTree.read_join_congr hsame hrelative fun hup => hstrays (.up hup)]
  · intro hstrays w
    rw [loadFrom, load_of_strays hstrays]
  · intro hstrays w
    refine ⟨?_, ?_, ?_, ?_⟩
    · intro bytes text hread hdecode
      simp only [load_of_not_strays hstrays, hread, loaded, hdecode]
    · intro hread
      rw [loadFrom, load_of_notFound hstrays hread]
    · intro bytes hread hdecode
      simp only [load_of_not_strays hstrays, hread, loaded, hdecode]
    · intro cause hread hcause
      rw [load_of_not_strays hstrays, hread]
      cases cause
      case notFound => exact absurd rfl hcause
      all_goals rfl
  · intro kind project plain directory request w w' hproject hplain hread
    obtain ⟨artifact, hartifact⟩ := request.exists_artifact kind
    refine ⟨artifact, ?_, ?_⟩
    · obtain ⟨log, hrun⟩ := request.generateIn_of_notFound hproject hread
      obtain ⟨w₁, hlibrary⟩ := hartifact ⟨w.files, log⟩
      rw [hrun, hlibrary]
    · obtain ⟨w₁, hlibrary⟩ := hartifact w'
      rw [request.generateIn_of_none hplain, hlibrary]

/-! ### A directory of templates -/

/-- A directory of templates with one template, by the name `page`. -/
def pages : FileTree :=
  ⟨[(["page", "tpl"], .file (encode "class Page\n")), (["tpl"], .directory)]⟩

/-- The directory of templates and a file beside it. -/
def pagesBeside (secret : List UInt8) : FileTree := pages.put ["secret"] (.file secret)

variable {secret secret' : List UInt8}

theorem entry?_pagesBeside {location : Location} (h : location ≠ ["secret"]) :
    FileTree.entry? (pagesBeside secret) location = pages.entry? location :=
  FileTree.entry?_put_of_ne h _

theorem equalBelow_pages :
    (pagesBeside secret).EqualBelow (pagesBeside secret') ["tpl"] ["tpl"] := by
  have hne (location : Location) : location ++ ["tpl"] ≠ ["secret"] := by
    intro he
    have hlast := congrArg List.getLast? he
    rw [List.getLast?_concat] at hlast
    exact absurd (Option.some.inj hlast) (by decide)
  constructor
  · intro location
    rw [entry?_pagesBeside (hne location), entry?_pagesBeside (hne location)]
  · intro location target he
    rw [entry?_pagesBeside (hne location)] at he
    cases location with
    | nil => cases he
    | cons name above =>
      have hmem := mem_of_lookup he
      simp [pages] at hmem

theorem reaches_pages : (pagesBeside secret).Reaches ⟨"/tpl"⟩ FileTree.linkLimit ["tpl"] :=
  FileTree.reaches_of_steps (by decide) (by decide) (by decide) (by decide)
    (entry?_pagesBeside (by decide))

theorem sameBelow_pages :
    FileTree.SameBelow ⟨"/tpl"⟩ (pagesBeside secret) (pagesBeside secret') := by
  have htrace (secret : List UInt8) :
      (pagesBeside secret).trace ⟨"/tpl"⟩ = .ok ⟨["tpl"], some .directory, false⟩ := by
    have hsteps : (⟨"/tpl"⟩ : Path).steps = ["tpl"] := by decide
    have hslash : (⟨"/tpl"⟩ : Path).endsWithSlash = false := by decide
    have hentry : FileTree.entry? (pagesBeside secret) ["tpl"] = some .directory :=
      entry?_pagesBeside (by decide)
    rw [FileTree.trace, hsteps, hslash,
      FileTree.walk_name (by decide) (by decide) (by simp [hentry]), hentry]
  exact .there (htrace secret) (htrace secret') equalBelow_pages

theorem read_page : (pagesBeside secret).read ((⟨"/tpl"⟩ : Path).join ⟨"page"⟩) =
    .ok (encode "class Page\n") := by
  have hentry : FileTree.entry? (pagesBeside secret) ["page", "tpl"] =
      some (.file (encode "class Page\n")) := entry?_pagesBeside (by decide)
  have hshort : byteLength ((⟨"/tpl"⟩ : Path).join ⟨"page"⟩).text ≤ FileTree.pathLimit := by
    rw [byteLength_join _ (by decide)]
    decide
  exact FileTree.read_name reaches_pages (by decide) (by decide) hshort hentry

theorem read_modelTemplate : (pagesBeside secret).read
    (((⟨"/"⟩ : Path).join ⟨"tpl"⟩).join ⟨ArtifactKind.model.templateName⟩) = .error .notFound := by
  have hroot : (⟨"/"⟩ : Path).join ⟨"tpl"⟩ = ⟨"/tpl"⟩ := by decide
  have hsteps : (⟨ArtifactKind.model.templateName⟩ : Path).steps =
      ["snippets", "model.py.jinja2"] := by decide
  have hentry : FileTree.entry? (pagesBeside secret) ["snippets", "tpl"] = none :=
    entry?_pagesBeside (by decide)
  have hshort : byteLength ((⟨"/tpl"⟩ : Path).join ⟨ArtifactKind.model.templateName⟩).text ≤
      FileTree.pathLimit := by
    rw [byteLength_join _ (by decide)]
    decide
  rw [hroot, FileTree.read_eq, FileTree.resolve_join reaches_pages .look (by decide)
      (by rw [hsteps]; exact List.cons_ne_nil _ _) (by decide), if_neg (Nat.not_lt.2 hshort),
    hsteps, FileTree.walk_cons (by decide) (by decide) (by decide) (by decide), hentry]
  rfl

/-- With a file beside the directory, whatever it holds, and in the project that is around it. -/
theorem load_directory_pages :
    loadFrom ⟨"/tpl"⟩ "page" ⟨pagesBeside [1], []⟩ =
        loadFrom ⟨"/tpl"⟩ "page" ⟨pagesBeside [2], []⟩ ∧
      loadFrom ⟨"/tpl"⟩ "../secret" ⟨pagesBeside [1], []⟩ = .ok none ∧
      loadFrom ⟨"/tpl"⟩ "page" ⟨pagesBeside [1], []⟩ = .ok (some "class Page\n") ∧
      ∃ artifact, ((Make.productRequest.generateIn .model
            ⟨⟨"/"⟩, { generator := { templates := some ⟨"tpl"⟩ } }⟩).run
              ⟨pagesBeside [1], []⟩).1 = .ok artifact ∧
          ((Make.productRequest.generateIn .model ⟨⟨"/"⟩, {}⟩).run ⟨pagesBeside [1], []⟩).1 =
            .ok artifact := by
  obtain ⟨hconfined, -, hplain, hproject⟩ := load_directory ⟨"/tpl"⟩ "page"
  obtain ⟨-, hstrays, -⟩ := load_directory ⟨"/tpl"⟩ "../secret"
  have hpage : ¬ (⟨"page"⟩ : Path).Strays := goesDown_iff.1 (by decide)
  exact ⟨hconfined ⟨pagesBeside [1], []⟩ ⟨pagesBeside [2], []⟩ sameBelow_pages,
    hstrays (.up (by decide)) _,
    (hplain hpage ⟨pagesBeside [1], []⟩).1 _ _ read_page (decode?_encode _),
    hproject .model _ ⟨⟨"/"⟩, {}⟩ _ _ _ _ rfl rfl read_modelTemplate⟩

end TemplateSource

end Groundwork
