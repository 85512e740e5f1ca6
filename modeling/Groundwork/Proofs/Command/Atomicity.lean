import Groundwork.Proofs.Artifact.Layout
import Groundwork.Proofs.Command.Success
import Groundwork.Proofs.Files.Rooted

/-!
# Failures of making an artifact

A command that fails leaves the files as they were, unless the cause is that a file or directory
cannot be read or written (`Make.run_atomic`). Then the artifact has been generated, and the
directory and the file of the artifact may have been made where nothing was before; all the rest is
as it was (`Artifact.MayLeave`).

Most causes come before the writing. That something would have to be overwritten is found before the
directory of the artifact is made, or when its file is to be created; a directory that has just been
made is empty, because the tree is rooted, so in the second case the directory was there before.
-/

namespace Groundwork

open Text Groundwork.Path Workspace

variable {t t' : FileTree} {root : Path} {links : Nat} {here : Location} {directory name : String}

/-! ## What may be left -/

/-- What a place may hold after the artifact could not be written, against what it held before. -/
inductive Artifact.MayLeave (root : Path) (directory : String) (artifact : Artifact)
    (t t' : FileTree) (location : Location) : Prop
  /-- The place is as it was. -/
  | unchanged (h : t'.entry? location = t.entry? location)
  /-- Nothing was there, and it is the directory of the artifact. -/
  | directory (h : t.entry? location = none) (h' : t'.entry? location = some .directory)
    (hl : t'.LeadsTo (root.join ⟨directory⟩) location)
  /-- Nothing was there, and it is the file of the artifact with all of its text. -/
  | file (h : t.entry? location = none)
    (h' : t'.entry? location = some (.file (encode artifact.content)))
    (hl : t'.LeadsTo (root.join artifact.path) location)

/-- Making a directory below a root leaves every other place as it is. -/
theorem MakesBelow.changes {r : Except Failure Unit} (hr : t.Reaches root links here)
    (hd : IsName directory) (hl : byteLength directory ≤ FileTree.nameLimit)
    (h : MakesBelow root directory here t r t') (location : Location) :
    t'.entry? location = t.entry? location ∨
      t.entry? location = none ∧ t'.entry? location = some .directory ∧
        t'.LeadsTo (root.join ⟨directory⟩) location := by
  have he := h.extends
  cases h with
  | made h hp =>
    by_cases hn : location = directory :: here
    · subst hn
      have hput := FileTree.entry?_put_self (t := t) (List.cons_ne_nil directory here) .directory
      refine .inr ⟨h, hput, .directory, false, ?_⟩
      rw [FileTree.resolve_short_name (hr.of_extends he) hd hl hp (by simp [hput]), hput]
    · exact .inl (FileTree.entry?_put_of_ne hn _)
  | there => exact .inl rfl
  | failed => exact .inl rfl

theorem leadsTo_of_create {p : Path} {bytes : List UInt8} (h : t.create p bytes = .ok t') :
    ∃ location, t.entry? location = none ∧ t' = t.put location (.file bytes) ∧
      t'.LeadsTo p location := by
  obtain ⟨⟨location, entry, slash⟩, hr, he, rfl⟩ := FileTree.create_cases h
  have hentry : entry = none := (FileTree.entry_of_resolve hr).trans he
  subst hentry
  obtain ⟨h₀, h₁, h₂, hw⟩ := FileTree.resolve_eq_ok_iff.1 hr
  refine ⟨location, he, rfl, .file bytes, slash, FileTree.resolve_eq_ok_iff.2 ⟨h₀, h₁, h₂, ?_⟩⟩
  exact FileTree.walk_look_of_extends (FileTree.extends_put he _) (by simp)
    (FileTree.entry?_put_self (FileTree.ne_nil_of_entry?_eq_none he) _) hw

/-- Making the directory of an artifact leaves that directory at most. -/
theorem MakesBelow.mayLeave {r : Except Failure Unit} (artifact : Artifact)
    (hr : t.Reaches root links here) (hd : IsName directory)
    (hl : byteLength directory ≤ FileTree.nameLimit) (h : MakesBelow root directory here t r t')
    (location : Location) : artifact.MayLeave root directory t t' location := by
  obtain hu | ⟨h, h', hto⟩ := h.changes hr hd hl location
  · exact .unchanged hu
  · exact .directory h h' hto

namespace Artifact

variable {artifact : Artifact} {failure : Failure}

/-- An artifact that cannot be written leaves its directory and its file at most. -/
theorem Writes.mayLeave (hr : t.Reaches root links here) (hd : IsName directory)
    (hl : byteLength directory ≤ FileTree.nameLimit) (hn : IsName name)
    (ha : artifact.path = pair directory name) (h : artifact.Writes root t (.error failure) t')
    (location : Location) : artifact.MayLeave root directory t t' location := by
  generalize hres : (.error failure : Except Failure Written) = res at h
  cases h with
  | taken => exact .unchanged rfl
  | homeless failure t₁ _ hp =>
    rw [ha] at hp
    exact (makesBelow_of_makesParent hr hd hl hn hp).mayLeave artifact hr hd hl location
  | uncreated e t₁ _ hp hc =>
    rw [ha] at hp
    exact (makesBelow_of_makesParent hr hd hl hn hp).mayLeave artifact hr hd hl location
  | created r t₁ t₂ t₃ _ hp hc hreg =>
    rw [ha] at hp
    have hb := makesBelow_of_makesParent hr hd hl hn hp
    obtain ⟨place, hnone, ht₂, hto⟩ := leadsTo_of_create hc
    obtain ⟨failure', rfl⟩ : ∃ failure', r = .error failure' := by
      cases r with
      | error failure' => exact ⟨failure', rfl⟩
      | ok => cases hres
    obtain ⟨-, rfl⟩ := hreg.of_error
    by_cases hp : location = place
    · subst hp
      have ht : t.entry? location = none := by
        rcases he : t.entry? location with _ | entry
        · rfl
        · simp [hb.extends _ _ he] at hnone
      refine .file ht ?_ hto
      rw [ht₂, FileTree.entry?_put_self (FileTree.ne_nil_of_entry?_eq_none hnone)]
    · have hput : t'.entry? location = t₁.entry? location := by
        rw [ht₂, FileTree.entry?_put_of_ne hp]
      have he : t₁.Extends t' := by
        rw [ht₂]
        exact FileTree.extends_put hnone _
      obtain hu | ⟨h, h', hto⟩ := hb.changes hr hd hl location
      · exact .unchanged (hput.trans hu)
      · have hg : t₁.Grows (fun _ _ => True) t' := he.grows
        exact .directory h (hput.trans h') (hto.of_grows hg)

/-- An artifact that cannot be written leaves nothing at all, save when the cause is a file or
directory. -/
theorem Writes.eq_of_failure (ht : t.Rooted) (hr : t.Reaches root links here)
    (hd : IsName directory) (hl : byteLength directory ≤ FileTree.nameLimit) (hn : IsName name)
    (ha : artifact.path = pair directory name) (h : artifact.Writes root t (.error failure) t')
    (hk : failure.kind ≠ .file) : t' = t := by
  generalize hres : (.error failure : Except Failure Written) = res at h
  cases h with
  | taken => rfl
  | homeless failure t₁ _ hp =>
    rw [ha] at hp
    generalize hrp : (.error failure : Except Failure Unit) = rp at hp
    cases makesBelow_of_makesParent hr hd hl hn hp with
    | made => cases hrp
    | there => rfl
    | failed => rfl
  | uncreated e t₁ _ hp hc =>
    cases hres
    rw [ha] at hp hc
    cases makesBelow_of_makesParent hr hd hl hn hp with
    | made hnone =>
      -- the directory is new, and nothing is in it
      have hr' := hr.of_extends (FileTree.extends_put hnone .directory)
      have hput := FileTree.entry?_put_self (t := t) (List.cons_ne_nil directory here) .directory
      have hempty : FileTree.entry? (t.put (directory :: here) .directory)
          (name :: directory :: here) = none := by
        rw [FileTree.entry?_put_of_ne (List.cons_ne_self name _)]
        exact ht.entry?_below (by simp [hnone])
      rw [FileTree.create_pair hr' hd hn hl hput, hempty] at hc
      split at hc
      · cases hc
        exact absurd rfl hk
      · cases hc
    | there => rfl
  | created r t₁ t₂ t₃ _ hp hc hreg =>
    -- only reading or appending to the aggregator can fail then
    cases r with
    | ok => cases hres
    | error failure' =>
      cases hres
      exact absurd hreg.of_error.1 hk

end Artifact

/-! ## Whole runs -/

namespace Make

/-- **A command fails without a trace.** Running a command in a rooted tree tells the user that it
is under way and then its result, as the outcome says. If it fails for any cause but a file or
directory that cannot be read or written, the files are as they were. If it fails for that cause,
they are as they were, or the artifact had been generated: then the directory and the file of the
artifact may have been made where nothing was, and every other place is as it was. -/
theorem run_atomic (make : Make) (setting : Setting) {w w' : Workspace} {report : Report}
    (ht : w.files.Rooted) (h : (make.run setting : StateM Workspace Report) w = (report, w')) :
    ((∃ path progress text details, report.outcome = .success path ∧ report.outcome.status = 0 ∧
        report.events = [.progress progress, .success text details]) ∨
      ∃ kind message progress label cause, report.outcome = .failure kind message ∧
        report.outcome.status = 1 ∧
        report.events = [.progress progress, .failure label cause]) ∧
    (∀ kind message, report.outcome = .failure kind message → kind ≠ .file →
      w'.files = w.files) ∧
    ∀ message, report.outcome = .failure .file message →
      w'.files = w.files ∨
        ∃ project artifact, make.prepared setting.directory w = .ok (project, artifact) ∧
          ∀ location,
            artifact.MayLeave project.root make.kind.directory w.files w'.files location := by
  have hruns := runs_of_run make setting w
  rw [h] at hruns
  generalize w'.files = t at hruns ⊢
  cases hruns with
  | unprepared stage failure hp =>
    refine ⟨.inr ⟨failure.kind, setting.message failure, _, _, _, rfl, rfl, rfl⟩, ?_, ?_⟩
    · exact fun _ _ _ _ => rfl
    · exact fun _ _ => .inl rfl
  | written project artifact written _ hp hw =>
    refine ⟨.inl ⟨written.path, _, _, _, rfl, rfl, rfl⟩, ?_, ?_⟩
    · exact fun _ _ ho => by cases ho
    · exact fun _ ho => by cases ho
  | unwritten project artifact failure _ hp hw =>
    obtain ⟨hmark, entity, hentity, hpath, -, -⟩ := ready_of_prepared hp
    rw [make.kind.path_eq] at hpath
    have hn : IsName (make.kind.fileName entity) :=
      ArtifactKind.isName_fileName (Entity.wellNamed_of_parse hentity)
    have hd := make.kind.isName_directory
    have hl := make.kind.byteLength_directory
    obtain ⟨links, here, hr⟩ := FileTree.reaches_of_isFile (by decide) (by decide) hmark
    refine ⟨.inr ⟨failure.kind, setting.message failure, _, _, _, rfl, rfl, rfl⟩, ?_, ?_⟩
    · intro kind message ho hk
      cases ho
      exact hw.eq_of_failure ht hr hd hl hn hpath hk
    · exact fun _ _ => .inr ⟨project, artifact, hp, hw.mayLeave hr hd hl hn hpath⟩

/-- A model that is there already is not made again, and the project is as it was. -/
theorem run_atomic_shop :
    shop.Rooted ∧
      ∃ report w', (makeProduct.1.run ⟨⟨"/models"⟩, .english⟩ : StateM Workspace Report)
          ⟨shop, []⟩ = (report, w') ∧
        report.outcome = .failure .alreadyExists "/models/produto.py already exists" ∧
        report.outcome.status = 1 ∧ w'.files = shop := by
  rcases hrun : (makeProduct.1.run ⟨⟨"/models"⟩, .english⟩ : StateM Workspace Report)
    ⟨shop, []⟩ with ⟨report, w'⟩
  have hfound : Project.Found ⟨"/models"⟩ ⟨"/"⟩ {} shop := shop.steady.found
  obtain ⟨content, hprepared⟩ := exists_prepared (w := ⟨shop, []⟩) hfound rfl spells_makeProduct
  have hruns := runs_of_run makeProduct.1 ⟨⟨"/models"⟩, .english⟩ ⟨shop, []⟩
  rw [hrun] at hruns
  have htaken := (hruns.taken shop.plain hprepared spells_makeProduct.entity
    (ArtifactKind.fits_of_short (by decide) (by decide)) rfl).1
  have ho : report.outcome = .failure .alreadyExists "/models/produto.py already exists" :=
    htaken.trans (by decide)
  obtain ⟨-, hsame, -⟩ := run_atomic _ _ shop.rooted hrun
  exact ⟨shop.rooted, report, w', rfl, ho, by rw [ho]; rfl, hsame _ _ ho (by decide)⟩

end Make

end Groundwork
