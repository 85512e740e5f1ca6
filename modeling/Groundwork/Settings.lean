import Groundwork.Json.Printer
import Groundwork.Json.Reader
import Groundwork.Log
import Groundwork.Path
import Groundwork.Text.Trim

/-!
# Settings of a project

The settings that a project keeps in its marker file, a JSON object. What the file does not say is
as in the defaults, member by member; what it says must have the right kind, and what it says beyond
the settings is ignored. `Settings.manifest` is the marker file of a new project.
-/

namespace Groundwork

/-- How artifacts are generated in a project. -/
structure GeneratorSettings where
  /-- Whether models have columns for the times of creation and change. -/
  timestamps : Bool := true
  /-- The directory of templates, from the root of the project, if the project has its own. -/
  templates : Option Path := none
  deriving DecidableEq, Repr

/-- The settings of a project. -/
structure Settings where
  /-- The name of the project. -/
  name : String := ""
  /-- The version of the project. -/
  version : String := "0.1.0"
  /-- How artifacts are generated. -/
  generator : GeneratorSettings := {}
  deriving DecidableEq, Repr

/-! ## Reading -/

namespace Json

/-- The text that a value is. -/
def asText? : Json → Option String
  | text s => some s
  | _ => none

/-- The truth value that a value is. -/
def asBoolean? : Json → Option Bool
  | boolean b => some b
  | _ => none

/-- The path that a value is, where `null` stands for none. -/
def asPath? : Json → Option (Option Path)
  | null => some none
  | text s => some (some ⟨s⟩)
  | _ => none

/-- What `read` makes of a value, or a default if there is no value. -/
def orDefault {α : Type} (read : Json → Option α) (fallback : α) : Option Json → Option α
  | none => some fallback
  | some value => read value

end Json

namespace GeneratorSettings

/-- The settings that a value gives: an object with members, or a list in their order. -/
def ofJson? : Json → Option GeneratorSettings
  | .object members => do
    let timestamps ← Json.orDefault Json.asBoolean? true (Json.member? "timestamps" members)
    let templates ← Json.orDefault Json.asPath? none (Json.member? "templates_dir" members)
    pure ⟨timestamps, templates⟩
  | .list items => do
    let timestamps ← Json.orDefault Json.asBoolean? true items[0]?
    let templates ← Json.orDefault Json.asPath? none items[1]?
    pure ⟨timestamps, templates⟩
  | _ => none

end GeneratorSettings

namespace Settings

/-- The settings that a document gives. -/
def ofJson? : Json → Option Settings
  | .object members => do
    let name ← Json.orDefault Json.asText? "" (Json.member? "name" members)
    let version ← Json.orDefault Json.asText? "0.1.0" (Json.member? "version" members)
    let generator ← Json.orDefault GeneratorSettings.ofJson? {} (Json.member? "generator" members)
    pure ⟨name, version, generator⟩
  | _ => none

/-- The settings that the text of a marker file gives; a blank one gives the defaults. -/
def ofText? (s : String) : Option Settings := do
  if Text.isBlankText s then pure {}
  else ofJson? (← Json.ofChars? s.toList)

/-! ## Writing -/

/-- The document of some settings. -/
def toJson (settings : Settings) : Json :=
  .object [("name", .text settings.name), ("version", .text settings.version),
    ("generator", .object (("timestamps", .boolean settings.generator.timestamps) ::
      (settings.generator.templates.map fun p => ("templates_dir", Json.text p.text)).toList))]

/-- The marker file of a new project. -/
def manifest (name : String) : String :=
  String.ofList (Json.print 0 (toJson { name }) ++ ['\n'])

/-- The settings as they are shown in the log. -/
def shown (settings : Settings) : String :=
  let templates :=
    match settings.generator.templates with
    | some p => "Some(" ++ Log.quotedPath p.text ++ ")"
    | none => "None"
  "ProjectSettings \x7b name: " ++ Log.quoted settings.name ++ ", version: "
    ++ Log.quoted settings.version ++ ", generator: GeneratorSettings \x7b timestamps: "
    ++ (if settings.generator.timestamps then "true" else "false")
    ++ ", templates_dir: " ++ templates ++ " \x7d \x7d"

end Settings

end Groundwork
