import Groundwork.Proofs.Command.FreshProject
import Groundwork.Proofs.Files.Founding
import Groundwork.Proofs.Template.Substitution

/-!
# The skeleton of a project

Where a path leads to nothing and a directory can be made, the command makes a project, if the name
and the lengths of the paths allow it (`New.run_founds_project`). All that it makes is the
directory, with those above it that were missing, and its contents. A file that has a template is
the template with the tags of the names replaced (`New.substituted_files`), and the marker file
gives the settings of the project back.
-/

namespace Groundwork

open Text Groundwork.Path Workspace

namespace New

/-! ## Templates -/

section

open Template Template.Library

variable {project : String}

/-- The text of a template with its tags replaced by the name of a project, the name being
snake-cased where the tag says so. -/
def substituted (project source : String) : String :=
  replace (Piece.tag "project_name_snake") (Inflection.snake project)
    (replace (Piece.tag "project_name") project source)

/-- The name of a project has no opening brace. -/
theorem brace_not_mem (h : isProjectName project = true) : '\x7b' ∉ project.toList := by
  intro hm
  rw [isProjectName] at h
  split at h
  · next he =>
    rw [he] at hm
    cases hm
  · next c cs he =>
    obtain ⟨hhead, htail⟩ := Bool.and_eq_true_iff.1 h
    rw [he, List.mem_cons] at hm
    obtain rfl | hm := hm
    · exact absurd hhead (by decide)
    · exact absurd (List.all_eq_true.1 htail _ hm) (by decide)

theorem substituted_untagged {lines : List String} (h : lines ∈ untagged) :
    substituted project (ofLines lines) = ofLines lines := by
  have hbrace := brace_not_mem_untagged h
  rw [substituted, Piece.replace_tag_of_not_mem hbrace, Piece.replace_tag_of_not_mem hbrace]

theorem substituted_tagged {source : List String} {pieces : List (List Piece)}
    (hproject : '\x7b' ∉ project.toList) (h : (source, pieces) ∈ tagged) :
    substituted project (ofLines source) = ofLines (filled project pieces) := by
  have hsource := eq_lines_tagged h
  obtain hword | ⟨hword, hnot⟩ := isOf_tagged h
  · -- once the name has been filled in, there is no tag left
    rw [substituted, hsource, Piece.replace_lines hword,
      Piece.replace_tag_of_not_mem (Piece.brace_not_mem_lines hword hproject), filled,
      Piece.lines_eq hword (value project)]
    rfl
  · rw [substituted, replace_of_not_infix hnot, hsource, Piece.replace_lines hword, filled,
      Piece.lines_eq hword (value project)]
    rfl

/-- Each file of a new project is its template with the tags replaced. -/
theorem substituted_files (hproject : isProjectName project = true) :
    ∀ file ∈ files project, ∃ source, templates.lookup file.template = some source ∧
      substituted project (ofLines source) = ofLines file.lines :=
  forall_files project (P := fun source lines =>
      substituted project (ofLines source) = ofLines lines)
    (fun _ hmem => substituted_untagged hmem)
    fun _ _ hmem => substituted_tagged (brace_not_mem hproject) hmem

end

/-! ## Contents -/

/-- The contents of a new project have its files, and the directories that these are in. -/
theorem contents_files (project : String) : ∀ file ∈ files project,
    (file.slot.above = [] ∨ (contents project).lookup file.slot.above = some .directory) ∧
      (contents project).lookup (file.slot.name :: file.slot.above) =
        some (.file (encode (Template.Library.ofLines file.lines))) := by
  simp only [files, List.forall_mem_cons]
  exact ⟨⟨.inl rfl, rfl⟩, ⟨.inl rfl, rfl⟩, ⟨.inl rfl, rfl⟩, ⟨.inl rfl, rfl⟩, ⟨.inr rfl, rfl⟩,
    ⟨.inr rfl, rfl⟩, ⟨.inr rfl, rfl⟩, ⟨.inr rfl, rfl⟩, ⟨.inr rfl, rfl⟩, by simp⟩

/-! ## Making a project -/

variable {w w' w₁ : Workspace} {target : Path} {name : String} {above : List Char} {links : Nat}
  {here : Location}

/-- A project is founded where its directory can be made. -/
theorem create_founds (hrooted : w.files.Rooted) (hup : ".." ∉ target.steps)
    (hfree : w.files.has target = false) (hname : target.fileName? = some name)
    (hproject : isProjectName name = true)
    (hmade : (FileStore.makeDirectories target : StateM Workspace (Except FileError Unit)) w =
      (.ok (), w₁))
    (hmarker : byteLength (target.join Project.marker).text ≤ FileTree.pathLimit)
    (hshort : ∀ file ∈ files name,
      byteLength (target.join file.slot.path).text ≤ FileTree.pathLimit) :
    ∃ w' above links here,
      (create target : Action (StateM Workspace) String).run w = (.ok name, w') ∧
        w'.files.Awaits target name above links here ∧
        w.files.Founds w'.files (name :: here) (contents name) := by
  obtain ⟨above, links, here, ha, hfounds⟩ :=
    hrooted.founds_of_makeDirectories (w.files.noUpFromMissing hup) hname hfree hmade
  have hdirectory : (Action.makeDirectories target : Action (StateM Workspace) Unit).run w =
      (.ok (), w₁) := by
    rw [Action.makeDirectories, run_attempt, hmade]
    rfl
  obtain ⟨w', hcreate, ha', hfills⟩ :=
    run_create_of_made hfree hname hproject hdirectory ha hfounds.toHolds hmarker hshort
  exact ⟨w', above, links, here, hcreate, ha', hfounds.trans hfills⟩

/-- The files of a new project read as their templates with the tags replaced. -/
theorem read_substituted (hholds : w.files.Holds (name :: here) (contents name))
    (ha : w.files.Awaits target name above links here) (hproject : isProjectName name = true)
    (hshort : ∀ file ∈ files name,
      byteLength (target.join file.slot.path).text ≤ FileTree.pathLimit) :
    ∀ file ∈ files name, ∃ source, Template.Library.source? file.template = some source ∧
      w.files.read (target.join file.slot.path) = .ok (encode (substituted name source)) := by
  intro file hfile
  obtain ⟨source, hsource, hlines⟩ := substituted_files hproject file hfile
  obtain ⟨hdirectory, hlookup⟩ := contents_files name file hfile
  refine ⟨Template.Library.ofLines source, ?_, ?_⟩
  · rw [Template.Library.source?, hsource]
    rfl
  · rw [hlines]
    exact hholds.read ha (named_files name file hfile) (hshort file hfile) hdirectory hlookup

/-- A new project can be loaded. -/
theorem load_new (hholds : w.files.Holds (name :: here) (contents name))
    (ha : w.files.Awaits target name above links here)
    (hmarker : byteLength (target.join Project.marker).text ≤ FileTree.pathLimit) :
    ∃ w', (Project.load target : Action (StateM Workspace) Project).run w =
      (.ok ⟨target, { name }⟩, w') := by
  have hpath : Slot.path ⟨none, Project.marker.text⟩ = Project.marker := rfl
  have hlookup : (contents name).lookup [Project.marker.text] =
      some (.file (encode (Settings.manifest name))) := rfl
  rw [← hpath] at hmarker
  have hread := hholds.read ha slot_marker hmarker (.inl rfl) hlookup
  exact run_load hread (decode?_encode _) (Settings.ofText?_manifest name)

variable {new : New} {setting : Setting}

/-- **A new project is its skeleton and nothing else.** Where a path leads to nothing, does not lead
up anywhere and ends in the name of a project, and where its directory can be made along with those
above it, the command succeeds, if the paths of the files are not too long. It makes this directory
and those above it that were missing, and in the directory just the contents of a new project;
everything else is as it was. Each file that has a template is the template with the tags replaced
by the name of the project, and the project can be loaded: it has its name, and the settings are the
defaults. -/
theorem run_founds_project (hrooted : w.files.Rooted)
    (hup : ".." ∉ (setting.directory.join new.path).steps)
    (hfree : w.files.has (setting.directory.join new.path) = false)
    (hname : (setting.directory.join new.path).fileName? = some name)
    (hproject : isProjectName name = true)
    (hmade : (FileStore.makeDirectories (setting.directory.join new.path) :
      StateM Workspace (Except FileError Unit)) w = (.ok (), w₁))
    (hmarker : byteLength ((setting.directory.join new.path).join Project.marker).text ≤
      FileTree.pathLimit)
    (hshort : ∀ file ∈ skeleton,
      byteLength ((setting.directory.join new.path).join file.2).text ≤ FileTree.pathLimit) :
    ∃ report w', (new.run setting : StateM Workspace Report) w = (report, w') ∧
      report.outcome = .success (setting.directory.join new.path) ∧
      (∃ place, w'.files.LeadsTo (setting.directory.join new.path) place ∧
        w.files.Founds w'.files place (contents name)) ∧
      (∀ template path, (template, path) ∈ skeleton → ∃ source,
        Template.Library.source? template = some source ∧
          w'.files.read ((setting.directory.join new.path).join path) =
            .ok (encode (substituted name source))) ∧
      ((Project.load (setting.directory.join new.path) : Action (StateM Workspace) Project).run
          w').1 =
        .ok ⟨setting.directory.join new.path,
          { name
            version := "0.1.0"
            generator := { timestamps := true, templates := none } }⟩ := by
  have hshort' : ∀ file ∈ files name,
      byteLength ((setting.directory.join new.path).join file.slot.path).text ≤
        FileTree.pathLimit := by
    rwa [skeleton_eq name, List.forall_mem_map] at hshort
  obtain ⟨w', above, links, here, hcreate, ha, hfounds⟩ :=
    create_founds hrooted hup hfree hname hproject hmade hmarker hshort'
  obtain ⟨report, hrun, houtcome⟩ : ∃ report,
      (new.run setting : StateM Workspace Report) w = (report, w') ∧
        report.outcome = .success (setting.directory.join new.path) := success_of_create hcreate
  refine ⟨report, w', hrun, houtcome, ⟨_, ha.leadsTo hfounds.directory, hfounds⟩, ?_, ?_⟩
  · have hread := read_substituted hfounds.toHolds ha hproject hshort'
    intro template path hmem
    rw [skeleton_eq name, List.mem_map] at hmem
    obtain ⟨file, hfile, heq⟩ := hmem
    obtain ⟨rfl, rfl⟩ := Prod.mk.inj heq
    exact hread file hfile
  · obtain ⟨w₂, hload⟩ := load_new hfounds.toHolds ha hmarker
    rw [hload]

/-! ### A project in a directory that is missing -/

/-- The command that makes the project `loja` in the directory `lojas`. -/
def makeBelow : New := ⟨⟨"lojas/loja"⟩⟩

/-- The path of the project. -/
def lojaBelow : Path := atRoot.directory.join makeBelow.path

/-- The shop once the directory has been made in it. -/
def lojasMade : FileTree := shop.put ["lojas"] .directory

theorem awaits_lojas :
    shop.Awaits ⟨"/lojas"⟩ "lojas" "/lojas".toList FileTree.linkLimit [] where
  ends := ⟨by decide, ⟨0, by decide⟩, [[]], by decide⟩
  noNull := by decide
  short := by decide
  shortName := by decide
  descends := ⟨[], by decide, by rw [FileTree.descend]⟩

theorem awaits_lojaBelow :
    lojasMade.Awaits lojaBelow "loja" "/lojas/loja".toList FileTree.linkLimit ["lojas"] where
  ends := ⟨by decide, ⟨0, by decide⟩, [[], "lojas".toList], by decide⟩
  noNull := by decide
  short := by decide
  shortName := by decide
  descends := ⟨["lojas"], by decide, FileTree.descend_name (by decide) (by decide) rfl⟩

theorem resolve_lojaBelow (purpose : FileTree.Purpose) :
    shop.resolve purpose lojaBelow = .error .notFound := by
  have hnull : lojaBelow.text.toList.contains '\x00' = false := by decide
  have hsteps : lojaBelow.steps = ["lojas", "loja"] := by decide
  rw [FileTree.resolve, hnull, if_neg Bool.false_ne_true, if_neg (by decide), if_neg (by decide),
    hsteps, FileTree.walk_cons (by decide) (by decide) (by simp) (by decide)]
  rfl

/-- The missing directory is made, and then that of the project. -/
theorem makeDirectories_lojaBelow :
    (FileStore.makeDirectories lojaBelow : StateM Workspace (Except FileError Unit))
      ⟨shop, []⟩ = (.ok (), ⟨lojasMade.put ["loja", "lojas"] .directory, []⟩) := by
  have hancestors : lojaBelow.ancestors = [lojaBelow, ⟨"/lojas"⟩, ⟨"/"⟩] := by decide
  have hne : lojaBelow.text ≠ "" := by decide
  have hmissing : shop.makeDirectory lojaBelow = .error .notFound := by
    rw [FileTree.makeDirectory, resolve_lojaBelow]
    rfl
  have hlojas : shop.makeDirectory ⟨"/lojas"⟩ = .ok lojasMade :=
    awaits_lojas.makeDirectory_of_free rfl
  have hloja : lojasMade.makeDirectory lojaBelow =
      .ok (lojasMade.put ["loja", "lojas"] .directory) := awaits_lojaBelow.makeDirectory_of_free rfl
  simp [FileStore.makeDirectories, hancestors, bind, StateT.bind, run_climb, run_settleDirectory,
    hmissing, hlojas, hloja, hne, FileStore.settleAll, Except.map]

/-- In the shop, with a directory that is made along. -/
theorem run_founds_project_below : ∃ report made,
    (makeBelow.run atRoot : StateM Workspace Report) ⟨shop, []⟩ = (report, made) ∧
      report.outcome = .success lojaBelow ∧
      (∃ place, made.files.LeadsTo lojaBelow place ∧
        shop.Founds made.files place (contents "loja")) ∧
      ((Project.load lojaBelow : Action (StateM Workspace) Project).run made).1 =
        .ok ⟨lojaBelow, { name := "loja" }⟩ := by
  have hroot : (encodeChars (anchored lojaBelow.text.toList)).length ≤ 100 := by decide
  have hfree : shop.has lojaBelow = false := by
    rw [FileTree.has, FileTree.find?, resolve_lojaBelow]
    rfl
  have hshort : ∀ file ∈ skeleton,
      byteLength (lojaBelow.join file.2).text ≤ FileTree.pathLimit := by
    rw [skeleton_eq "loja", List.forall_mem_map]
    exact short_files hroot "loja"
  obtain ⟨report, made, hrun, houtcome, hfounds, -, hload⟩ :=
    @run_founds_project ⟨shop, []⟩ _ "loja" makeBelow atRoot shop.rooted
      (by decide) hfree (by decide) (by decide) makeDirectories_lojaBelow
      (FileTree.short_join hroot (by decide) (by decide)) hshort
  exact ⟨report, made, hrun, houtcome, hfounds, hload⟩

end New

end Groundwork
