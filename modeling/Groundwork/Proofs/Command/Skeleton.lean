import Groundwork.Proofs.Artifact.Printing
import Groundwork.Proofs.Command.Finding
import Groundwork.Proofs.Command.Operations
import Groundwork.Proofs.Files.Contents
import Groundwork.Proofs.Template.Project

/-!
# What a new project consists of

A new project has a marker file and a file for each template of new projects that the library has
(`New.files`, `skeleton_eq`), which make up its contents (`New.contents`, `foldlM_files`). Each file
is rendered from its template (`render_files`) and can be put where it belongs (`named_files`), so
making one file adds it to what the directory holds (`run_makeFile`), and making all of them, by
induction, fills it (`run_makeFiles`, `run_fill`). So a project is made where nothing is, if no path
is too long (`run_create`), and whenever making it succeeds, it holds just these contents
(`holds_of_success`).
-/

namespace Groundwork

open Text Groundwork.Path Workspace

namespace New

/-! ## The files -/

/-- A file of a new project. -/
structure File where
  /-- The name of the template that it is made from. -/
  template : String
  /-- Where it is. -/
  slot : Slot
  /-- Its lines. -/
  lines : List String
  deriving DecidableEq, Repr

/-- What a name in the templates of a new project stands for. -/
def value (project word : String) : String :=
  if word = "project_name" then project else Inflection.snake project

/-- The lines of a template in the project called `project`. -/
def filled (project : String) (pieces : List (List Template.Piece)) : List String :=
  Template.Piece.lines (value project) pieces

open Template.Library in
/-- The files of the project called `project`, without the marker file. -/
def files (project : String) : List File :=
  [⟨"project/app.py.jinja2", ⟨none, "app.py"⟩, application⟩,
    ⟨"project/config.py.jinja2", ⟨none, "config.py"⟩, filled project configurationPieces⟩,
    ⟨"project/init_db.py.jinja2", ⟨none, "init_db.py"⟩, filled project initializationPieces⟩,
    ⟨"project/requirements.txt.jinja2", ⟨none, "requirements.txt"⟩, requirements⟩,
    ⟨"project/models/__init__.py.jinja2", ⟨some "models", "__init__.py"⟩, modelPackage⟩,
    ⟨"project/models/base.py.jinja2", ⟨some "models", "base.py"⟩, modelBase⟩,
    ⟨"project/controllers/__init__.py.jinja2", ⟨some "controllers", "__init__.py"⟩,
      controllerPackage⟩,
    ⟨"project/routes/__init__.py.jinja2", ⟨some "routes", "__init__.py"⟩,
      filled project routePieces⟩,
    ⟨"project/templates/index.html.jinja2", ⟨some "templates", "index.html"⟩,
      filled project indexPieces⟩]

/-- The paths of the files that the library has templates of new projects for. -/
theorem skeleton_eq_paths :
    skeleton = ["app.py", "config.py", "init_db.py", "requirements.txt", "models/__init__.py",
      "models/base.py", "controllers/__init__.py", "routes/__init__.py",
      "templates/index.html"].map fun path => (folder ++ path ++ ending, ⟨path⟩) := by
  decide +kernel

theorem skeleton_eq (project : String) :
    skeleton = (files project).map fun file => (file.template, file.slot.path) := by
  rw [skeleton_eq_paths]
  simp only [files, List.map_cons, List.map_nil, Slot.path, pair]
  rfl

/-! ### Rendering -/

section

open Template Template.Library

variable (project : String)

theorem render_filled {source : List String} {pieces : List (List Piece)}
    (h : (source, pieces) ∈ tagged) :
    render (ofLines source) (scope project) = .ok (ofLines (filled project pieces)) := by
  refine render_pieces (ofSource?_tagged h) (fun word hw => ?_) fun word hw => ?_
  · obtain rfl | rfl := words_tagged h word hw
    · exact ⟨by decide, rfl⟩
    · exact ⟨by decide, rfl⟩
  · obtain rfl | rfl := words_tagged h word hw
    · rfl
    · rfl

/-- Every file of a new project has a template in which nothing or a name is filled in, so what
holds of these holds of its template and its lines. -/
theorem forall_files {P : List String → List String → Prop}
    (huntagged : ∀ source ∈ untagged, P source source)
    (htagged : ∀ source pieces, (source, pieces) ∈ tagged → P source (filled project pieces)) :
    ∀ file ∈ files project, ∃ source,
      templates.lookup file.template = some source ∧ P source file.lines := by
  simp only [files, List.forall_mem_cons]
  exact ⟨⟨_, rfl, huntagged _ (.head _)⟩,
    ⟨_, rfl, htagged _ _ (.head _)⟩,
    ⟨_, rfl, htagged _ _ (.tail _ (.head _))⟩,
    ⟨_, rfl, huntagged _ (.tail _ (.head _))⟩,
    ⟨_, rfl, huntagged _ (.tail _ (.tail _ (.head _)))⟩,
    ⟨_, rfl, huntagged _ (.tail _ (.tail _ (.tail _ (.head _))))⟩,
    ⟨_, rfl, huntagged _ (.tail _ (.tail _ (.tail _ (.tail _ (.head _)))))⟩,
    ⟨_, rfl, htagged _ _ (.tail _ (.tail _ (.head _)))⟩,
    ⟨_, rfl, htagged _ _ (.tail _ (.tail _ (.tail _ (.head _))))⟩,
    by simp⟩

/-- Every file of a new project is rendered from its template. -/
theorem render_files : ∀ file ∈ files project, ∃ source,
    templates.lookup file.template = some source ∧
      render (ofLines source) (scope project) = .ok (ofLines file.lines) :=
  forall_files project (P := fun source lines =>
      render (ofLines source) (scope project) = .ok (ofLines lines))
    (fun _ hmem => render_untagged (brace_not_mem_untagged hmem))
    fun _ _ hmem => render_filled project hmem

end

/-! ### Places -/

/-- What is below the root of the project called `project` once it has been made. -/
def contents (project : String) : Contents :=
  let text (lines : List String) : Entry := .file (encode (Template.Library.ofLines lines))
  [(["index.html", "templates"], text (filled project Template.Library.indexPieces)),
    (["templates"], .directory),
    (["__init__.py", "routes"], text (filled project Template.Library.routePieces)),
    (["routes"], .directory),
    (["__init__.py", "controllers"], text Template.Library.controllerPackage),
    (["controllers"], .directory),
    (["base.py", "models"], text Template.Library.modelBase),
    (["__init__.py", "models"], text Template.Library.modelPackage),
    (["models"], .directory),
    (["requirements.txt"], text Template.Library.requirements),
    (["init_db.py"], text (filled project Template.Library.initializationPieces)),
    (["config.py"], text (filled project Template.Library.configurationPieces)),
    (["app.py"], text Template.Library.application),
    (["oryum.json"], .file (encode (Settings.manifest project)))]

/-- The contents with the file added, in the directory that it is in. -/
def File.addTo? (contents : Contents) (file : File) : Option Contents :=
  contents.add? file.slot (encode (Template.Library.ofLines file.lines))

/-- The marker file and the other files, created one after the other, make up the contents. -/
theorem foldlM_files (project : String) :
    (files project).foldlM File.addTo?
      [([Project.marker.text], .file (encode (Settings.manifest project)))] =
        some (contents project) := rfl

/-- The files and directories of a new project have names that directories can hold. -/
theorem named_files (project : String) : ∀ file ∈ files project, file.slot.Named := by
  simp only [files, List.forall_mem_cons]
  refine ⟨?_, ?_, ?_, ?_, ?_, ?_, ?_, ?_, ?_, by simp⟩ <;> decide

/-! ## Making a file -/

variable {w w' : Workspace} {target : Path} {project name : String} {above : List Char}
  {links : Nat} {here : Location} {c c' : Contents}

/-- Making a file of a project adds it to what the project holds. -/
theorem run_makeFile {file : File} {source : List String}
    (ha : w.files.Awaits target name above links here) (hh : w.files.Holds (name :: here) c)
    (hn : file.slot.Named)
    (hshort : byteLength (target.join file.slot.path).text ≤ FileTree.pathLimit)
    (hsource : Template.Library.templates.lookup file.template = some source)
    (hrender : Template.render (Template.Library.ofLines source) (scope project) =
      .ok (Template.Library.ofLines file.lines))
    (hc : file.addTo? c = some c') :
    ∃ w', (makeFile target project file.template file.slot.path :
      Action (StateM Workspace) Unit).run w = (.ok (), w') ∧
        w.files.Fills w'.files (name :: here) c' := by
  have hsource' : Template.Library.source? file.template =
      some (Template.Library.ofLines source) := by
    rw [Template.Library.source?, hsource]
    rfl
  obtain ⟨c₁, hc₁, hc⟩ := Contents.add?_eq_some hc
  obtain ⟨t₁, hparent, hh₁⟩ := hh.run_makeParent ha hn hshort hc₁
  have he : w.files.Extends t₁ := by
    have hk := keeps_makeParent (R := FileTree.Extends) (target.join file.slot.path) w
    rwa [hparent] at hk
  obtain ⟨t₂, hwrite, hh₂⟩ := FileTree.Holds.run_writeNew (w := { w with files := t₁ })
    hh₁.toHolds (ha.of_extends he) hn hshort (Contents.lookup_of_makeAbove? hc₁) hc
  have hrendered := TemplateSource.run_library hsource' hrender { w with files := t₁ }
  exact ⟨_, (andThen_of_ok hparent).trans <| (andThen_of_ok hrendered).trans <|
    (andThen_of_ok hwrite).trans (run_note _ _ _ _), hh₁.trans hh₂⟩

/-- Making files of a project one after the other. -/
theorem run_makeFiles {list : List File} (hlist : list ⊆ files project)
    (ha : w.files.Awaits target name above links here) (hh : w.files.Holds (name :: here) c)
    (hshort : ∀ file ∈ list, byteLength (target.join file.slot.path).text ≤ FileTree.pathLimit)
    (hc : list.foldlM File.addTo? c = some c') :
    ∃ w', ((list.map fun file => (file.template, file.slot.path)).forM fun (template, path) =>
      makeFile target project template path : Action (StateM Workspace) Unit).run w = (.ok (), w') ∧
        w.files.Fills w'.files (name :: here) c' := by
  induction list generalizing w c with
  | nil =>
    obtain rfl := Option.some.inj hc
    exact ⟨w, rfl, hh.fills⟩
  | cons file list ih =>
    obtain ⟨hfile, hlist⟩ := List.cons_subset.1 hlist
    obtain ⟨hshort, hshorts⟩ := List.forall_mem_cons.1 hshort
    rw [List.foldlM_cons] at hc
    obtain ⟨c₁, hc₁, hc⟩ := Option.bind_eq_some_iff.1 hc
    obtain ⟨source, hsource, hrender⟩ := render_files project file hfile
    obtain ⟨w₁, hrun, hh₁⟩ :=
      run_makeFile ha hh (named_files project file hfile) hshort hsource hrender hc₁
    have he : w.files.Extends w₁.files := by
      have hk := keeps_makeFile (R := FileTree.Extends) target project file.template
        file.slot.path w
      rwa [hrun] at hk
    obtain ⟨w', hruns, hh'⟩ := ih hlist (ha.of_extends he) hh₁.toHolds hshorts hc
    exact ⟨w', (andThen_of_ok hrun).trans hruns, hh₁.trans hh'⟩

/-! ## Making the project -/

/-- The paths of the files of a new project are short. -/
theorem short_files {root : Path} (hroot : (encodeChars (anchored root.text.toList)).length ≤ 100)
    (project : String) : ∀ file ∈ files project,
      byteLength (root.join file.slot.path).text ≤ FileTree.pathLimit := by
  simp only [files, List.forall_mem_cons]
  refine ⟨?_, ?_, ?_, ?_, ?_, ?_, ?_, ?_, ?_, by simp⟩ <;>
    exact FileTree.short_join hroot (by decide) (by decide)

theorem slot_marker : (Slot.mk none Project.marker.text).Named := by decide

/-- Puts the files of the project called `name` into its directory: what is left to do once the
directory has been made. -/
def fill (target : Path) (name : String) : Action (StateM Workspace) String := do
  Action.writeNew (target.join Project.marker) (Settings.manifest name)
  skeleton.forM fun (template, path) => makeFile target name template path
  Action.note .info "project created" [("project", name), ("path", target.text)]
  pure name

theorem keeps_fill {R : FileTree → FileTree → Prop} [AllowsAdding R] (target : Path)
    (name : String) : Keeps R (fill target name).run :=
  keeps_andThen (keeps_writeNew _ _) fun _ => keeps_andThen (keeps_makeFiles _ _ _) fun _ =>
    keeps_andThen (keeps_step (keeps_note _)) fun _ => keeps_ok _

/-- An empty directory is filled with what a new project holds, if the paths of the files are not
too long. -/
theorem run_fill (ha : w.files.Awaits target name above links here)
    (hh : w.files.Holds (name :: here) [])
    (hmarker : byteLength (target.join Project.marker).text ≤ FileTree.pathLimit)
    (hshort : ∀ file ∈ files project,
      byteLength (target.join file.slot.path).text ≤ FileTree.pathLimit) :
    ∃ w', (fill target project).run w = (.ok project, w') ∧
      w.files.Fills w'.files (name :: here) (contents project) := by
  have hmarked : Contents.createFile? [] [Project.marker.text]
      (encode (Settings.manifest project)) =
        some [([Project.marker.text], .file (encode (Settings.manifest project)))] := rfl
  obtain ⟨t₁, hwrite, hh₁⟩ := FileTree.Holds.run_writeNew hh ha slot_marker hmarker (.inl rfl)
    hmarked
  have hpath : Slot.path ⟨none, Project.marker.text⟩ = Project.marker := rfl
  rw [hpath] at hwrite
  have ha₁ : t₁.Awaits target name above links here := by
    have hk := keeps_writeNew (R := FileTree.Extends) (target.join Project.marker)
      (Settings.manifest project) w
    rw [hwrite] at hk
    exact ha.of_extends hk
  obtain ⟨w₂, hfiles, hh₂⟩ := run_makeFiles (w := { w with files := t₁ }) (List.Subset.refl _) ha₁
    hh₁.toHolds hshort (foldlM_files project)
  rw [← skeleton_eq] at hfiles
  exact ⟨_, (andThen_of_ok hwrite).trans <| (andThen_of_ok hfiles).trans <|
    (andThen_of_ok (run_note _ _ _ _)).trans (run_ok _ _), hh₁.trans hh₂⟩

/-- A path with the name of a project is refused if something is there. If not, its directory is
made and filled. -/
theorem run_create_eq (hname : target.fileName? = some name)
    (hproject : isProjectName name = true) :
    (create target : Action (StateM Workspace) String).run w =
      if w.files.has target then (.error (.alreadyExists target), w)
      else
        (do Action.makeDirectories target
            fill target name : Action (StateM Workspace) String).run w := by
  have hname' : target.fileName?.filter isProjectName = some name := by
    rw [hname]
    simp [hproject]
  rw [create, hname']
  refine (andThen_of_ok (run_step _ _)).trans ?_
  rw [run_has]
  split <;> rfl

theorem create_of_free (hname : target.fileName? = some name) (hproject : isProjectName name = true)
    (hno : w.files.has target = false) :
    (create target : Action (StateM Workspace) String).run w =
      (do Action.makeDirectories target
          fill target name : Action (StateM Workspace) String).run w := by
  rw [run_create_eq hname hproject, hno, if_neg Bool.false_ne_true]

/-- A project is made if its directory can be made and is then empty, and the paths of its files are
not too long. -/
theorem run_create_of_made {w₁ : Workspace} (hno : w.files.has target = false)
    (hname : target.fileName? = some name) (hproject : isProjectName name = true)
    (hmade : (Action.makeDirectories target : Action (StateM Workspace) Unit).run w = (.ok (), w₁))
    (ha : w₁.files.Awaits target name above links here) (hh : w₁.files.Holds (name :: here) [])
    (hmarker : byteLength (target.join Project.marker).text ≤ FileTree.pathLimit)
    (hshort : ∀ file ∈ files name,
      byteLength (target.join file.slot.path).text ≤ FileTree.pathLimit) :
    ∃ w', (create target : Action (StateM Workspace) String).run w = (.ok name, w') ∧
      w'.files.Awaits target name above links here ∧
        w₁.files.Fills w'.files (name :: here) (contents name) := by
  obtain ⟨w', hfill, hfills⟩ := run_fill ha hh hmarker hshort
  have he : w₁.files.Extends w'.files := by
    have hk := keeps_fill (R := FileTree.Extends) target name w₁
    rwa [hfill] at hk
  refine ⟨w', ?_, ha.of_extends he, hfills⟩
  rw [create_of_free hname hproject hno]
  exact (andThen_of_ok hmade).trans hfill

/-- A project is made where nothing is, in a directory that is there, if its name is the name of a
project and the paths of its files are not too long. -/
theorem run_create (hr : w.files.Rooted) (ha : w.files.Awaits target name above links here)
    (hfree : w.files.entry? (name :: here) = none) (hname : target.fileName? = some name)
    (hproject : isProjectName name = true)
    (hmarker : byteLength (target.join Project.marker).text ≤ FileTree.pathLimit)
    (hshort : ∀ file ∈ files name,
      byteLength (target.join file.slot.path).text ≤ FileTree.pathLimit) :
    ∃ w', (create target : Action (StateM Workspace) String).run w = (.ok name, w') ∧
      w'.files.Awaits target name above links here ∧
        w'.files.Holds (name :: here) (contents name) := by
  have hmade := run_makeDirectories_of_made ha.text_ne_empty (ha.makeDirectory_of_free hfree)
  obtain ⟨w', hcreate, ha', hfills⟩ :=
    run_create_of_made (ha.has_of_free hfree) hname hproject hmade
      (ha.of_extends (FileTree.extends_put hfree .directory)) (hr.holds_put hfree) hmarker hshort
  exact ⟨w', hcreate, ha', hfills.toHolds⟩

/-! ## What success tells -/

theorem short_of_writeNew {p : Path} {text : String}
    (h : (Action.writeNew p text : Action (StateM Workspace) Unit).run w = (.ok (), w')) :
    byteLength p.text ≤ FileTree.pathLimit := by
  rw [run_writeNew] at h
  rcases hc : w.files.create p (encode text) with e | t
  · simp only [change, hc, mapError_error] at h
    cases h
  · obtain ⟨place, hr, -, -⟩ := FileTree.create_cases hc
    exact (FileTree.resolve_eq_ok_iff.1 hr).2.2.1

theorem short_of_makeFile {template : String} {path : Path}
    (h : (makeFile target project template path : Action (StateM Workspace) Unit).run w =
      (.ok (), w')) : byteLength (target.join path).text ≤ FileTree.pathLimit := by
  obtain ⟨_, w₁, -, h⟩ := andThen_ok h
  obtain ⟨content, w₂, -, h⟩ := andThen_ok h
  obtain ⟨_, w₃, hwrite, -⟩ := andThen_ok h
  exact short_of_writeNew hwrite

theorem short_of_makeFiles {list : List (String × Path)}
    (h : (list.forM fun (template, path) =>
      makeFile target project template path : Action (StateM Workspace) Unit).run w =
        (.ok (), w')) :
    ∀ file ∈ list, byteLength (target.join file.2).text ≤ FileTree.pathLimit := by
  induction list generalizing w with
  | nil => simp
  | cons file list ih =>
    obtain ⟨_, w₁, hfile, hlist⟩ := andThen_ok h
    exact List.forall_mem_cons.2 ⟨short_of_makeFile hfile, ih hlist⟩

/-- A project that has been made is called like its directory, and the paths of its files are not
too long. -/
theorem of_create (h : (create target : Action (StateM Workspace) String).run w = (.ok name, w')) :
    target.fileName? = some name ∧ isProjectName name = true ∧
      byteLength (target.join Project.marker).text ≤ FileTree.pathLimit ∧
      ∀ file ∈ files name, byteLength (target.join file.slot.path).text ≤ FileTree.pathLimit := by
  unfold create at h
  split at h
  · cases h
  · next project hproject =>
    obtain ⟨hname, hvalid⟩ := Option.filter_eq_some_iff.1 hproject
    obtain ⟨b, w₁, -, h⟩ := andThen_ok h
    cases b
    · obtain ⟨_, w₂, -, h⟩ := andThen_ok h
      obtain ⟨_, w₃, hmarker, h⟩ := andThen_ok h
      obtain ⟨_, w₄, hfiles, h⟩ := andThen_ok h
      obtain ⟨_, w₅, -, h⟩ := andThen_ok h
      cases h
      have hshort := short_of_makeFiles hfiles
      rw [skeleton_eq name, List.forall_mem_map] at hshort
      exact ⟨hname, hvalid, short_of_writeNew hmarker, hshort⟩
    · cases h

/-- The command succeeds if the project is made. -/
theorem success_of_create {new : New} {setting : Setting}
    (h : (create (setting.directory.join new.path) : Action (StateM Workspace) String).run w =
      (.ok name, w')) :
    ∃ report, (new.run setting : StateM Workspace Report) w = (report, w') ∧
      report.outcome = .success (setting.directory.join new.path) := by
  simp only [New.run, bind, StateT.bind, h]
  exact ⟨_, rfl, rfl⟩

/-- A run of the command that succeeds has made the project. -/
theorem create_of_success {new : New} {setting : Setting} {report : Report} {path : Path}
    (h : (new.run setting : StateM Workspace Report) w = (report, w'))
    (hs : report.outcome = .success path) :
    ∃ name w₁, (create (setting.directory.join new.path) :
      Action (StateM Workspace) String).run w = (.ok name, w₁) ∧ w₁.files = w'.files := by
  rcases hrun : (create (setting.directory.join new.path) :
    Action (StateM Workspace) String).run w with ⟨failure | name, w₁⟩
  · simp only [New.run, bind, StateT.bind, hrun] at h
    obtain ⟨rfl, -⟩ := Prod.mk.inj h
    cases hs
  · simp only [New.run, bind, StateT.bind, hrun] at h
    obtain ⟨-, rfl⟩ := Prod.mk.inj h
    exact ⟨name, w₁, rfl, rfl⟩

/-- A project that has been made where nothing was is below its path, and holds what a new project
consists of. -/
theorem holds_of_success {new : New} {setting : Setting} {report : Report} {place : Location}
    {slash : Bool} {path : Path} (hr : w.files.Rooted)
    (hfree : w.files.resolve .put (setting.directory.join new.path) = .ok ⟨place, none, slash⟩)
    (hrun : (new.run setting : StateM Workspace Report) w = (report, w'))
    (hs : report.outcome = .success path) :
    ∃ name above links here, place = name :: here ∧
      w'.files.Awaits (setting.directory.join new.path) name above links here ∧
      w'.files.Holds place (contents name) := by
  obtain ⟨name, w₁, hcreate, hfiles⟩ := create_of_success hrun hs
  generalize setting.directory.join new.path = target at hfree hcreate ⊢
  obtain ⟨hname, hproject, hmarker, hshort⟩ := of_create hcreate
  obtain ⟨above, links, here, rfl, ha⟩ := hr.exists_awaits hfree hname
  have hnone : w.files.entry? (name :: here) = none := (FileTree.entry_of_resolve hfree).symm
  obtain ⟨w₂, hcreate', ha', hholds⟩ := run_create hr ha hnone hname hproject hmarker hshort
  obtain rfl : w₂ = w₁ := (Prod.mk.inj (hcreate'.symm.trans hcreate)).2
  rw [← hfiles]
  exact ⟨name, above, links, here, rfl, ha', hholds⟩

end New

end Groundwork
