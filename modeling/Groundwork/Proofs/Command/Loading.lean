import Groundwork.Proofs.Command.Success
import Groundwork.Proofs.Settings.Layers
import Groundwork.Proofs.Text.Damage

/-!
# Loading projects

What loading a project comes to is decided by the bytes of its marker file alone
(`Project.load_marker`): they are a text that gives settings, or a text that is malformed, or no
text.
-/

namespace Groundwork

open Text Json Workspace

namespace Project

variable {root : Path} {w : Workspace} {bytes : List UInt8} {text : String}

/-- What loading the project at a root comes to. -/
def loaded (root : Path) (w : Workspace) : Except Failure Project :=
  ((load root : Action (StateM Workspace) Project).run w).1

theorem loaded_of_settings (hread : w.files.read (root.join marker) = .ok (encode text))
    {settings : Settings} (h : Settings.ofText? text = some settings) :
    loaded root w = .ok ⟨root, settings⟩ := by
  obtain ⟨w', hload⟩ := run_load hread (decode?_encode text) h
  rw [loaded, hload]

theorem loaded_of_no_settings (hread : w.files.read (root.join marker) = .ok (encode text))
    (h : Settings.ofText? text = none) : loaded root w = .error .settings := by
  rw [loaded, run_load_refused hread (decode?_encode text) h]

theorem loaded_of_no_text (hread : w.files.read (root.join marker) = .ok bytes)
    (h : ∀ text, bytes ≠ encode text) :
    loaded root w = .error (.file (root.join marker) .notText) := by
  have hdecode : decode? bytes = none :=
    Option.eq_none_iff_forall_ne_some.2 fun text htext => h text (decode?_eq_some_iff.1 htext)
  have htext : (FileStore.readText (root.join marker) :
      StateM Workspace (Except FileError String)) w = (.error .notText, w) := by
    simp only [FileStore.readText, bind, StateT.bind, run_read, hread, hdecode]
    rfl
  have hattempt : (Action.attempt (root.join marker) (FileStore.readText (root.join marker)) :
      Action (StateM Workspace) String).run w =
        (.error (.file (root.join marker) .notText), w) := by
    rw [run_attempt, htext]
    rfl
  rw [loaded, load, andThen_of_error hattempt]

/-- **Settings are loaded key by key.** If the marker file at a root can be read and its bytes are
no text, then loading the project fails for the file. If they are a text, a blank one gives the
defaults; a document that is an object with distinct names, in which the settings are of their kinds
as far as they are there, gives settings, each of which is as the document says if the document says
it and as in the defaults if not, whatever else there is; and a text that is not blank and malformed
fails for the settings. -/
theorem load_marker (hread : w.files.read (root.join marker) = .ok bytes) :
    ((∀ text, bytes ≠ encode text) →
      loaded root w = .error (.file (root.join marker) .notText)) ∧
    ∀ text, bytes = encode text →
      (isBlankText text = true → loaded root w = .ok ⟨root, {}⟩) ∧
      (∀ members inner, IsDocument text.toList (.object members) →
        Settings.WellTyped members inner →
          ∃ settings, loaded root w = .ok ⟨root, settings⟩ ∧ settings.LaidOver members inner) ∧
      (isBlankText text = false → Settings.Malformed text →
        loaded root w = .error .settings) := by
  refine ⟨loaded_of_no_text hread, ?_⟩
  rintro text rfl
  refine ⟨fun hblank => ?_, fun members inner hdoc hw => ?_, fun hblank hm => ?_⟩
  · exact loaded_of_settings hread (Settings.ofText?_of_blank hblank)
  · obtain ⟨settings, hsettings, hover⟩ := Settings.ofText?_of_wellTyped hdoc hw
    exact ⟨settings, loaded_of_settings hread hsettings, hover⟩
  · exact loaded_of_no_settings hread (Settings.ofText?_of_malformed hblank hm)

/-! ## A marker file with some of the settings -/

/-- The text of a marker file that gives the name of the project, one of the two settings of its
generator, and something unknown. -/
def partialMarker : String :=
  "\x7b\"generator\":\x7b\"timestamps\":false\x7d,\"more\":[null],\"name\":\"loja\"\x7d"

/-- The members of the generator in the marker file. -/
def partialInner : List (String × Json) := [("timestamps", .boolean false)]

/-- The members of the marker file. -/
def partialMembers : List (String × Json) :=
  [("generator", .object partialInner), ("more", .list [.null]), ("name", .text "loja")]

/-- A project in the root directory with the marker file. -/
def partialProject : FileTree := ⟨[(["oryum.json"], .file (encode partialMarker))]⟩

theorem document_partialMarker :
    IsDocument partialMarker.toList (.object partialMembers) := by
  have hderives : Derives (125 + 1 + 1) (.value (.object partialMembers)) _ :=
    .object (.member "generator" (.object (.lastMember "timestamps" (.scalar (.boolean false))))
      (.member "more" (.list (.lastItem (.scalar .null)))
        (.lastMember "name" (.scalar (.text "loja")))))
  refine ⟨_, hderives, ?_⟩
  exact .token .openObject <| .text "generator" <| .token .colon <|
    .token .openObject <| .text "timestamps" <| .token .colon <| .token (.boolean false) <|
    .token .closeObject <| .token .comma <|
    .text "more" <| .token .colon <| .token .openList <| .token .null <| .token .closeList <|
    .token .comma <|
    .text "name" <| .token .colon <| .text "loja" <| .token .closeObject .nil

theorem wellTyped_partialMarker : Settings.WellTyped partialMembers partialInner where
  distinct := by decide
  distinctInner := by decide
  name value h := by
    simp [partialMembers] at h
    exact ⟨_, h⟩
  version value h := by simp [partialMembers] at h
  generator value h := by simpa [partialMembers] using h
  noGenerator h := absurd h (by decide)
  timestamps value h := by
    simp [partialInner] at h
    exact ⟨_, h⟩
  templates value h := by simp [partialInner] at h

theorem read_partialMarker :
    partialProject.read ((⟨"/"⟩ : Path).join marker) = .ok (encode partialMarker) := by
  have hreaches : partialProject.Reaches ⟨"/"⟩ FileTree.linkLimit [] := by
    have hsteps : (⟨"/"⟩ : Path).steps = [] := by decide
    refine ⟨by decide, ?_⟩
    rw [hsteps, FileTree.descend]
  have hshort : byteLength ((⟨"/"⟩ : Path).join ⟨marker.text⟩).text ≤ FileTree.pathLimit := by
    rw [Path.byteLength_join _ isName_marker.not_absolute]
    decide
  exact FileTree.read_name hreaches isName_marker (by decide) hshort rfl

theorem load_partialMarker :
    partialProject.read ((⟨"/"⟩ : Path).join marker) = .ok (encode partialMarker) ∧
      loaded ⟨"/"⟩ ⟨partialProject, []⟩ =
        .ok ⟨⟨"/"⟩, { name := "loja", generator := { timestamps := false } }⟩ := by
  obtain ⟨-, htext⟩ := load_marker (w := ⟨partialProject, []⟩) read_partialMarker
  obtain ⟨-, hsettings, -⟩ := htext partialMarker rfl
  obtain ⟨⟨name, version, timestamps, templates⟩, hloaded, hover⟩ :=
    hsettings _ _ document_partialMarker wellTyped_partialMarker
  obtain rfl : name = "loja" := hover.name.given "loja" (by simp [partialMembers])
  obtain rfl : version = "0.1.0" := hover.version.absent (by decide)
  obtain rfl : timestamps = false := hover.timestamps.given false (by simp [partialInner])
  obtain rfl : templates = none := hover.templates.absent (by decide)
  exact ⟨read_partialMarker, hloaded⟩

end Project

end Groundwork
