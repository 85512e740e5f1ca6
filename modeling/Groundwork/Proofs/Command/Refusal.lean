import Groundwork.Proofs.Command.FreshProject
import Groundwork.Proofs.Files.Gap

/-!
# Directories that are there already

A project is only made where its path leads to nothing. Then the directory that is made for it is
new and empty, so nothing is in the way of its files: once the directory is there, no step of making
the project finds that something exists already (`New.not_refuses_fill`). So a refusal comes before
anything has been made, and the project is not put into a directory that was there before
(`New.run_spares_directories`).

All of this is about paths that do not lead up from where nothing is. A path that does so leads
to nothing at first, and it may lead to a directory that was there once what it leads up from has
been made, as `missing/../loja` does (`New.run_fills_directory`).
-/

namespace Groundwork

open Text Groundwork.Path Workspace

/-! ## Refusals -/

/-- A failure that refuses what was asked for: something is there already, or what was typed cannot
be understood. -/
def Failure.Refuses (failure : Failure) : Prop :=
  failure.kind = .alreadyExists ∨ failure.kind = .input

theorem Failure.not_refuses_file (p : Path) (e : FileError) : ¬(file p e).Refuses := by
  simp [Refuses, kind]

/-- No failure of the computation is a refusal. -/
def NeverRefuses {α : Type} (x : Action (StateM Workspace) α) : Prop :=
  ∀ w failure w', x.run w = (.error failure, w') → ¬failure.Refuses

section

variable {α : Type} {w w' : Workspace} {failure : Failure} {p : Path}

theorem neverRefuses_attempt (x : StateM Workspace (Except FileError α)) (p : Path) :
    NeverRefuses (Action.attempt p x) := by
  intro w failure w' h
  rw [run_attempt] at h
  obtain ⟨h, -⟩ := Prod.mk.inj h
  rcases hx : (x w).1 with e | a
  · rw [hx] at h
    cases h
    exact Failure.not_refuses_file p e
  · rw [hx] at h
    cases h

theorem neverRefuses_makeParent (p : Path) :
    NeverRefuses (Action.makeParent p : Action (StateM Workspace) Unit) := by
  unfold Action.makeParent
  split
  · exact neverRefuses_attempt _ _
  · intro w failure w' h
    cases h

theorem neverRefuses_render (source : TemplateSource) (name : String) (scope : Template.Scope) :
    NeverRefuses (source.render name scope : Action (StateM Workspace) String) := by
  intro w failure w' h
  obtain ⟨e, he, -⟩ | ⟨loaded, w₁, -, h⟩ := andThen_cases h
  · cases he
  · split at h
    · cases h
      simp [Failure.Refuses, Failure.kind]
    · cases h
      simp [Failure.Refuses, Failure.kind]
    · split at h
      · cases h
      · cases h
        simp [Failure.Refuses, Failure.kind]

/-- Something can only be found at a path that is not too long. -/
theorem FileTree.short_of_alreadyThere {t : FileTree} {bytes : List UInt8}
    (h : t.create p bytes = .error .alreadyThere) : byteLength p.text ≤ pathLimit := by
  refine Nat.not_lt.1 fun hlong => ?_
  rcases hres : t.resolve .create p with e | place
  · have he : e = .alreadyThere := by
      simpa [create, hres, bind, Except.bind] using h
    rw [he, resolve, if_pos hlong] at hres
    split at hres
    · cases hres
    · split at hres <;> cases hres
  · exact absurd (resolve_eq_ok_iff.1 hres).2.2.1 (Nat.not_le.2 hlong)

/-- Creating a file is only refused if its path is not too long. -/
theorem short_of_writeNew_refused {text : String}
    (h : (Action.writeNew p text : Action (StateM Workspace) Unit).run w = (.error failure, w'))
    (hf : failure.Refuses) : byteLength p.text ≤ FileTree.pathLimit := by
  rw [run_writeNew] at h
  rcases hc : w.files.create p (encode text) with e | t
  · simp only [change, hc, mapError_error] at h
    cases h
    by_cases he : e = .alreadyThere
    · exact FileTree.short_of_alreadyThere (he ▸ hc)
    · rw [Failure.ofCreate, if_neg he] at hf
      exact absurd hf (Failure.not_refuses_file p e)
  · simp only [change, hc, mapError_ok] at h
    cases h

end

namespace New

variable {w w' : Workspace} {target : Path} {project name : String} {above : List Char}
  {links : Nat} {here : Location} {c c' : Contents} {failure : Failure}

/-! ## Filling a directory -/

theorem short_of_makeFile_refused {template : String} {path : Path}
    (h : (makeFile target project template path : Action (StateM Workspace) Unit).run w =
      (.error failure, w')) (hf : failure.Refuses) :
    byteLength (target.join path).text ≤ FileTree.pathLimit := by
  obtain ⟨e, he, hee⟩ | ⟨_, w₁, -, h⟩ := andThen_cases h
  · obtain rfl := Except.error.inj hee
    exact absurd hf (neverRefuses_makeParent _ _ _ _ he)
  obtain ⟨e, he, hee⟩ | ⟨content, w₂, -, h⟩ := andThen_cases h
  · obtain rfl := Except.error.inj hee
    exact absurd hf (neverRefuses_render _ _ _ _ _ _ he)
  obtain ⟨e, he, hee⟩ | ⟨_, w₃, -, h⟩ := andThen_cases h
  · obtain rfl := Except.error.inj hee
    exact short_of_writeNew_refused he hf
  · cases h

/-- Nothing is in the way of the files of a project. -/
theorem not_refuses_makeFiles {list : List File} (hlist : list ⊆ files project)
    (ha : w.files.Awaits target name above links here) (hh : w.files.Holds (name :: here) c)
    (hc : list.foldlM File.addTo? c = some c')
    (h : ((list.map fun file => (file.template, file.slot.path)).forM fun (template, path) =>
      makeFile target project template path : Action (StateM Workspace) Unit).run w =
        (.error failure, w')) : ¬failure.Refuses := by
  intro hf
  induction list generalizing w c with
  | nil => cases h
  | cons file list ih =>
    obtain ⟨hfile, hlist⟩ := List.cons_subset.1 hlist
    rw [List.foldlM_cons] at hc
    obtain ⟨c₁, hc₁, hc⟩ := Option.bind_eq_some_iff.1 hc
    obtain ⟨source, hsource, hrender⟩ := render_files project file hfile
    have hrun (hshort : byteLength (target.join file.slot.path).text ≤ FileTree.pathLimit) :=
      run_makeFile ha hh (named_files project file hfile) hshort hsource hrender hc₁
    obtain ⟨e, he, hee⟩ | ⟨_, w₁, hmade, h⟩ := andThen_cases h
    · obtain rfl := Except.error.inj hee
      obtain ⟨w₁, hmade, -⟩ := hrun (short_of_makeFile_refused he hf)
      cases he.symm.trans hmade
    · obtain ⟨w₂, hmade', hh₁⟩ := hrun (short_of_makeFile hmade)
      obtain rfl : w₂ = w₁ := (Prod.mk.inj (hmade'.symm.trans hmade)).2
      have he : w.files.Extends w₂.files := by
        have hk := keeps_makeFile (R := FileTree.Extends) target project file.template
          file.slot.path w
        rwa [hmade'] at hk
      exact ih hlist (ha.of_extends he) hh₁.toHolds hc h

/-- Nothing is in the way when an empty directory is filled. -/
theorem not_refuses_fill (ha : w.files.Awaits target name above links here)
    (hh : w.files.Holds (name :: here) [])
    (h : (fill target project).run w = (.error failure, w')) : ¬failure.Refuses := by
  intro hf
  have hmarked : Contents.createFile? [] [Project.marker.text]
      (encode (Settings.manifest project)) =
        some [([Project.marker.text], .file (encode (Settings.manifest project)))] := rfl
  have hpath : Slot.path ⟨none, Project.marker.text⟩ = Project.marker := rfl
  have hmark (hshort : byteLength (target.join Project.marker).text ≤ FileTree.pathLimit) :=
    FileTree.Holds.run_writeNew hh ha slot_marker hshort (.inl rfl) hmarked
  rw [hpath] at hmark
  obtain ⟨e, he, hee⟩ | ⟨_, w₁, hwrite, h⟩ := andThen_cases h
  · obtain rfl := Except.error.inj hee
    obtain ⟨t, hwrite, -⟩ := hmark (short_of_writeNew_refused he hf)
    cases he.symm.trans hwrite
  obtain ⟨t, hwrite', hh₁⟩ := hmark (short_of_writeNew hwrite)
  obtain rfl : { w with files := t } = w₁ := (Prod.mk.inj (hwrite'.symm.trans hwrite)).2
  have ha₁ : t.Awaits target name above links here := by
    have hk := keeps_writeNew (R := FileTree.Extends) (target.join Project.marker)
      (Settings.manifest project) w
    rw [hwrite] at hk
    exact ha.of_extends hk
  obtain ⟨e, he, hee⟩ | ⟨_, w₂, -, h⟩ := andThen_cases h
  · obtain rfl := Except.error.inj hee
    rw [skeleton_eq project] at he
    exact not_refuses_makeFiles (w := { w with files := t }) (List.Subset.refl _) ha₁ hh₁.toHolds
      (foldlM_files project) he hf
  · cases h

/-! ## Making a project -/

theorem create_of_has (hname : target.fileName? = some name) (hproject : isProjectName name = true)
    (hhas : w.files.has target = true) :
    (create target : Action (StateM Workspace) String).run w =
      (.error (.alreadyExists target), w) := by
  rw [run_create_eq hname hproject, hhas, if_pos rfl]

/-- Making a project is refused at once, or its directory is made and filled. -/
theorem create_cases {r : Except Failure String}
    (h : (create target : Action (StateM Workspace) String).run w = (r, w')) :
    ((∃ failure, r = .error failure) ∧ w' = w) ∨
      ∃ name, target.fileName? = some name ∧ w.files.has target = false ∧
        (do Action.makeDirectories target
            fill target name : Action (StateM Workspace) String).run w = (r, w') := by
  rcases hname : target.fileName?.filter isProjectName with _ | name
  · rw [create, hname] at h
    cases h
    exact .inl ⟨⟨_, rfl⟩, rfl⟩
  · obtain ⟨hfile, hproject⟩ := Option.filter_eq_some_iff.1 hname
    rw [run_create_eq hfile hproject] at h
    split at h
    · cases h
      exact .inl ⟨⟨_, rfl⟩, rfl⟩
    · next hno => exact .inr ⟨name, hfile, Bool.eq_false_iff.2 hno, h⟩

/-- What is refused changes nothing. -/
theorem create_refused (hr : w.files.Rooted) (hup : w.files.NoUpFromMissing target)
    (h : (create target : Action (StateM Workspace) String).run w = (.error failure, w'))
    (hf : failure.Refuses) : w' = w := by
  obtain ⟨-, rfl⟩ | ⟨name, hname, hno, h⟩ := create_cases h
  · rfl
  obtain ⟨e, he, hee⟩ | ⟨_, w₁, hmade, h⟩ := andThen_cases h
  · obtain rfl := Except.error.inj hee
    exact absurd hf (neverRefuses_attempt _ _ _ _ _ he)
  · obtain ⟨above, links, here, ha, hh, -⟩ :=
      hr.holds_of_makeDirectories hup hname hno (attempt_ok hmade)
    exact absurd hf (not_refuses_fill ha hh h)

/-- A directory that is there is not made into a project. -/
theorem create_spares {r : Except Failure String} (hr : w.files.Rooted)
    (hup : w.files.NoUpFromMissing target)
    (h : (create target : Action (StateM Workspace) String).run w = (r, w'))
    {place : FileTree.Place} (hres : w'.files.resolve .look target = .ok place)
    (hthere : w.files.entry? place.location = some .directory) :
    (∃ failure, r = .error failure) ∧ w'.files = w.files := by
  have hmoved := h
  obtain ⟨hr', rfl⟩ | ⟨name, hname, hno, h⟩ := create_cases h
  · exact ⟨hr', rfl⟩
  by_cases hgap : ∃ init first rest links here,
      w.files.Gap target.steps init first rest links here
  · -- the path leads behind the gap, where nothing was
    obtain ⟨init, first, rest, links, here, hgap⟩ := hgap
    have hextends := keeps_createProject (R := FileTree.Extends) target w
    have hlinkless := keeps_createProject (R := FileTree.Linkless) target w
    rw [hmoved] at hextends hlinkless
    have hplace := hgap.location_of_resolve hr (hup _ _ _ _ _ hgap) hextends hlinkless rfl hres
    rw [hplace, hgap.entry?_under hr] at hthere
    cases hthere
  · simp only [not_exists] at hgap
    have hsame := keeps_makeDirectories_of (fun q hq => hr.keeps_makeDirectory hgap hq) w rfl
    obtain ⟨e, he, rfl⟩ | ⟨_, w₁, hmade, -⟩ := andThen_cases h
    · rw [Action.makeDirectories, run_attempt] at he
      obtain ⟨-, rfl⟩ := Prod.mk.inj he
      exact ⟨⟨e, rfl⟩, hsame⟩
    · -- the directory would be new
      have hmade' := attempt_ok hmade
      rw [hmade'] at hsame
      obtain ⟨above, links, here, -, hh, hnone⟩ :=
        hr.holds_of_makeDirectories hup hname hno hmade'
      have hdirectory := hh.directory
      rw [hsame, hnone] at hdirectory
      cases hdirectory

/-! ## The command -/

/-- What a run of the command did to the files and its outcome are those of making the project. -/
theorem create_of_run {new : New} {setting : Setting} {report : Report}
    (h : (new.run setting : StateM Workspace Report) w = (report, w')) :
    ∃ r w₁, (create (setting.directory.join new.path) : Action (StateM Workspace) String).run w =
      (r, w₁) ∧ w'.files = w₁.files ∧
        report.outcome =
          match r with
          | .ok _ => .success (setting.directory.join new.path)
          | .error failure => .failure failure.kind (setting.message failure) := by
  rcases hrun : (create (setting.directory.join new.path) :
    Action (StateM Workspace) String).run w with ⟨failure | name, w₁⟩
  · simp only [New.run, bind, StateT.bind, hrun] at h
    obtain ⟨rfl, rfl⟩ := Prod.mk.inj h
    exact ⟨_, _, rfl, rfl, rfl⟩
  · simp only [New.run, bind, StateT.bind, hrun] at h
    obtain ⟨rfl, rfl⟩ := Prod.mk.inj h
    exact ⟨_, _, rfl, rfl, rfl⟩

theorem extends_of_run {new : New} {setting : Setting} {report : Report}
    (h : (new.run setting : StateM Workspace Report) w = (report, w')) :
    w.files.Extends w'.files := by
  have hk := keeps_new (R := FileTree.Extends) new setting w
  rwa [h] at hk

/-- **A directory that was there is spared.** Unless the path of the project leads up from where
nothing was, the directory that it leads to after the command was not there before, or else the
command has failed and changed nothing; and a failure by which the command refuses to overwrite
something or does not accept the name of the project comes before anything has been changed. If the
path led to something before the command, the failure says so. -/
theorem run_spares_directories {new : New} {setting : Setting} {report : Report}
    (hr : w.files.Rooted) (hup : w.files.NoUpFromMissing (setting.directory.join new.path))
    (hrun : (new.run setting : StateM Workspace Report) w = (report, w')) :
    (∀ place, w'.files.resolve .look (setting.directory.join new.path) = .ok place →
      w.files.entry? place.location = some .directory →
        (∃ kind message, report.outcome = .failure kind message) ∧ w'.files = w.files) ∧
      (∀ kind message, report.outcome = .failure kind message →
        kind = .alreadyExists ∨ kind = .input → w'.files = w.files) ∧
      ∀ name, (setting.directory.join new.path).fileName? = some name →
        isProjectName name = true → w.files.has (setting.directory.join new.path) = true →
          report.outcome = .failure .alreadyExists
            (Failure.alreadyExists (setting.directory.join new.path)).message := by
  obtain ⟨r, w₁, hcreate, hfiles, houtcome⟩ := create_of_run hrun
  rw [hfiles, houtcome]
  refine ⟨fun place hres hthere => ?_, fun kind message hfailure hkind => ?_,
    fun name hname hproject hhas => ?_⟩
  · obtain ⟨⟨failure, rfl⟩, hsame⟩ := create_spares hr hup hcreate hres hthere
    exact ⟨⟨failure.kind, setting.message failure, rfl⟩, hsame⟩
  · rcases r with failure | name
    · obtain ⟨rfl, -⟩ := Outcome.failure.inj hfailure
      rw [create_refused hr hup hcreate hkind]
    · cases hfailure
  · rw [create_of_has hname hproject hhas] at hcreate
    obtain ⟨rfl, -⟩ := Prod.mk.inj hcreate
    rfl

/-! ### A directory that is there -/

/-- A tree with nothing but the directory `loja`. -/
def lojaThere : FileTree := ⟨[(["loja"], .directory)]⟩

theorem rooted_lojaThere : lojaThere.Rooted := FileTree.rooted_of_entries (by decide)

theorem run_spares_loja : ∃ report after,
    (makeLoja.run atRoot : StateM Workspace Report) ⟨lojaThere, []⟩ = (report, after) ∧
      report.outcome = .failure .alreadyExists "/loja already exists" ∧
      after.files = lojaThere := by
  obtain ⟨report, after, hrun⟩ : ∃ report after,
      (makeLoja.run atRoot : StateM Workspace Report) ⟨lojaThere, []⟩ = (report, after) :=
    ⟨_, _, rfl⟩
  have hup : lojaThere.NoUpFromMissing loja := by
    intro init first rest links here hgap
    have hsteps : loja.steps = ["loja"] := by decide
    have hlength := congrArg List.length (hsteps.symm.trans hgap.steps_eq)
    simp only [List.length_append, List.length_cons, List.length_nil] at hlength
    obtain rfl : rest = [] := List.length_eq_zero_iff.1 (by omega)
    simp
  have hempty : FileTree.empty.Extends lojaThere := by
    rintro (_ | ⟨name, location⟩) entry h
    · exact h
    · cases h
  have ha := awaits_loja.of_extends hempty
  have hhas : lojaThere.has loja = true :=
    FileTree.has_of_isDirectory (ha.isDirectory_of_directory rfl)
  obtain ⟨hspared, -, hrefused⟩ := run_spares_directories rooted_lojaThere hup hrun
  have hextends := extends_of_run hrun
  have hthere : after.files.entry? ["loja"] = some .directory := hextends ["loja"] _ rfl
  have hres : after.files.resolve .look loja =
      .ok ⟨["loja"], after.files.entry? ["loja"], loja.endsWithSlash⟩ :=
    (ha.of_extends hextends).resolve_eq rfl (by simp [hthere])
  exact ⟨report, after, hrun, hrefused "loja" (by decide) (by decide) hhas,
    (hspared _ hres rfl).2⟩

/-- The command that makes a project at a path that leads up from a directory that is missing. -/
def makeRoundabout : New := ⟨⟨"missing/../loja"⟩⟩

/-- The path of that project in the root directory. -/
def roundabout : Path := atRoot.directory.join makeRoundabout.path

/-- The tree once the missing directory has been made. -/
def missingMade : FileTree := lojaThere.put ["missing"] .directory

open FileTree in
/-- Where the path of the project and those above it lead. -/
theorem resolve_roundabout (t : FileTree) (purpose : Purpose) :
    ∀ p ∈ [(roundabout, ["missing", "..", "loja"]), (⟨"/missing/.."⟩, ["missing", ".."]),
      (⟨"/missing"⟩, ["missing"])],
    t.resolve purpose p.1 = t.walk purpose linkLimit [] p.2 false := by
  intro p hmem
  have hp : p.1.text.toList.contains '\x00' = false ∧ p.1.text ≠ "" ∧
      ¬pathLimit < byteLength p.1.text ∧ p.1.steps = p.2 ∧ p.1.endsWithSlash = false := by
    revert p
    decide
  obtain ⟨hnull, hne, hshort, hsteps, hslash⟩ := hp
  rw [resolve, hnull, if_neg Bool.false_ne_true, if_neg hne, if_neg hshort, hsteps, hslash]

/-- The missing directory is made, and then the path leads to a directory. -/
theorem makeDirectories_roundabout :
    (FileStore.makeDirectories roundabout : StateM Workspace (Except FileError Unit))
      ⟨lojaThere, []⟩ = (.ok (), ⟨missingMade, []⟩) := by
  have hancestors : roundabout.ancestors =
      [roundabout, ⟨"/missing/.."⟩, ⟨"/missing"⟩, ⟨"/"⟩] := by
    decide
  have hne : roundabout.text ≠ "" := by decide
  have hloja (t : FileTree) (purpose : FileTree.Purpose) :=
    resolve_roundabout t purpose _ (.head _)
  have hup (t : FileTree) (purpose : FileTree.Purpose) :=
    resolve_roundabout t purpose _ (.tail _ (.head _))
  have hmissing (t : FileTree) (purpose : FileTree.Purpose) :=
    resolve_roundabout t purpose _ (.tail _ (.tail _ (.head _)))
  have hfree : lojaThere.entry? ["missing"] = none := rfl
  have hmissing₁ : missingMade.entry? ["missing"] = some .directory := rfl
  have hthere₁ : missingMade.entry? ["loja"] = some .directory := rfl
  have hshort : ¬FileTree.nameLimit < byteLength "missing" ∧
      ¬FileTree.nameLimit < byteLength "loja" := by decide
  -- on the way up, only the last directory can be made
  have hloja₀ : lojaThere.makeDirectory roundabout = .error .notFound := by
    simp [FileTree.makeDirectory, hloja, FileTree.walk, hfree, hshort, bind, Except.bind]
  have hup₀ : lojaThere.makeDirectory ⟨"/missing/.."⟩ = .error .notFound := by
    simp [FileTree.makeDirectory, hup, FileTree.walk, hfree, hshort, bind, Except.bind]
  have hmissing₀ : lojaThere.makeDirectory ⟨"/missing"⟩ = .ok missingMade := by
    simp [FileTree.makeDirectory, hmissing, FileTree.walk, hfree, hshort, bind, Except.bind,
      pure, Except.pure, missingMade]
  -- on the way down, the others are there
  have hup₁ : missingMade.makeDirectory ⟨"/missing/.."⟩ = .error .alreadyThere ∧
      missingMade.isDirectory ⟨"/missing/.."⟩ = true := by
    simp [FileTree.makeDirectory, FileTree.isDirectory, FileTree.find?, hup, FileTree.walk,
      hmissing₁, hshort, bind, Except.bind, throw, throwThe, MonadExceptOf.throw]
  have hloja₁ : missingMade.makeDirectory roundabout = .error .alreadyThere ∧
      missingMade.isDirectory roundabout = true := by
    simp [FileTree.makeDirectory, FileTree.isDirectory, FileTree.find?, hloja, FileTree.walk,
      hmissing₁, hthere₁, hshort, bind, Except.bind, throw, throwThe, MonadExceptOf.throw]
  simp [FileStore.makeDirectories, hancestors, bind, StateT.bind, run_climb, run_settleDirectory,
    hloja₀, hup₀, hmissing₀, hup₁, hloja₁, hne, FileStore.settleAll, Except.map]

/-- A directory that was there is made into a project by a path that leads up from a directory that
was missing. -/
theorem run_fills_directory : ∃ report after place,
    (makeRoundabout.run atRoot : StateM Workspace Report) ⟨lojaThere, []⟩ = (report, after) ∧
      after.files.resolve .look roundabout = .ok place ∧
      lojaThere.entry? place.location = some .directory ∧
      report.outcome = .success roundabout ∧
      lojaThere.entry? (Project.marker.text :: place.location) = none ∧
      after.files.entry? (Project.marker.text :: place.location) =
        some (.file (encode (Settings.manifest "loja"))) := by
  have hmissing : missingMade.entry? ["missing"] = some .directory := rfl
  have hlong : ¬FileTree.nameLimit < byteLength "missing" := by decide
  have ha : missingMade.Awaits roundabout "loja" "/missing/../loja".toList FileTree.linkLimit [] :=
    { ends := ⟨by decide, ⟨0, by decide⟩, [[], "missing".toList, "..".toList], by decide⟩
      noNull := by decide
      short := by decide
      shortName := by decide
      descends := ⟨["missing", ".."], by decide, by simp [FileTree.descend, hmissing, hlong]⟩ }
  have hh : missingMade.Holds ["loja"] [] := by
    refine ⟨rfl, fun location hne => ?_⟩
    obtain ⟨name, above, rfl⟩ := List.exists_cons_of_ne_nil hne
    simp [FileTree.entry?, missingMade, FileTree.put, lojaThere]
  have hroot : (encodeChars (anchored roundabout.text.toList)).length ≤ 100 := by decide
  obtain ⟨made, hfill, hholds⟩ := run_fill (w := ⟨missingMade, []⟩) ha hh
    (FileTree.short_join hroot (by decide) (by decide)) (short_files hroot "loja")
  have hmade : (Action.makeDirectories roundabout : Action (StateM Workspace) Unit).run
      ⟨lojaThere, []⟩ = (.ok (), ⟨missingMade, []⟩) := by
    rw [Action.makeDirectories, run_attempt, makeDirectories_roundabout]
    rfl
  have hno : lojaThere.has roundabout = false := by
    have hfree : lojaThere.entry? ["missing"] = none := rfl
    simp [FileTree.has, FileTree.find?, resolve_roundabout _ _ _ (.head _), FileTree.walk, hfree,
      hlong]
  have hname : roundabout.fileName? = some "loja" := by decide
  have hcreate : (create roundabout : Action (StateM Workspace) String).run ⟨lojaThere, []⟩ =
      (.ok "loja", made) := by
    rw [create_of_free hname (by decide) hno]
    exact (andThen_of_ok hmade).trans hfill
  obtain ⟨report, hrun, houtcome⟩ : ∃ report,
      (makeRoundabout.run atRoot : StateM Workspace Report) ⟨lojaThere, []⟩ = (report, made) ∧
        report.outcome = .success roundabout := success_of_create hcreate
  have he : missingMade.Extends made.files := by
    have hk := keeps_fill (R := FileTree.Extends) roundabout "loja" ⟨missingMade, []⟩
    rwa [hfill] at hk
  have hres : made.files.resolve .look roundabout =
      .ok ⟨["loja"], made.files.entry? ["loja"], roundabout.endsWithSlash⟩ :=
    (ha.of_extends he).resolve_eq rfl (by simp [hholds.directory])
  exact ⟨report, made, _, hrun, hres, rfl, houtcome, rfl,
    (hholds.below [Project.marker.text] (by simp)).trans rfl⟩

end New

end Groundwork
