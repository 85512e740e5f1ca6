import Groundwork.Files.Directories
import Groundwork.Settings
import Groundwork.Template.Source

/-!
# Projects

A project is a directory that holds a marker file; the marker file gives the settings. The project
that one is in is the nearest one at or above the directory that one is in, where the directories
above are found from the text of the path.
-/

namespace Groundwork

/-- A project that has been found. -/
structure Project where
  /-- The directory of the project. -/
  root : Path
  /-- The settings of the project. -/
  settings : Settings
  deriving DecidableEq, Repr

namespace Project

/-- The name of the marker file. -/
def marker : Path := ⟨"oryum.json"⟩

variable {m : Type → Type} [Monad m] [FileStore m]

/-- The first of some directories that holds a marker file. -/
def firstMarked : List Path → m (Option Path)
  | [] => pure none
  | directory :: directories => do
    if ← FileStore.isFile (directory.join marker) then pure (some directory)
    else firstMarked directories

/-- Finds the root of the project that `start` is in. -/
def locate (start : Path) : Action m Path := do
  match ← Action.step (firstMarked start.ancestors) with
  | some root => pure root
  | none => Action.fail (.noProject start)

/-- Loads the project at a root. -/
def load (root : Path) : Action m Project := do
  let file := root.join marker
  let text ← Action.attempt file (FileStore.readText file)
  match Settings.ofText? text with
  | none => Action.fail .settings
  | some settings =>
    Action.note .debug "loaded project settings"
      [("root", root.text), ("settings", settings.shown)]
    pure ⟨root, settings⟩

/-- Finds and loads the project that `start` is in. -/
def discover (start : Path) : Action m Project := do
  let root ← locate start
  load root

/-- Where the templates of a project come from. -/
def templates (project : Project) : Action m TemplateSource := do
  match project.settings.generator.templates with
  | none => pure .library
  | some path => do
    let directory := project.root.join path
    Action.note .debug "template overrides enabled" [("dir", directory.text)]
    pure (.directory directory)

end Project

end Groundwork
