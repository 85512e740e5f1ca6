import Groundwork.Command.Line

/-!
# What the user sees

A report as it is printed where there is no terminal: the result goes to the output or, if the
command has failed, to the error output, and what is under way is not shown. Only the records of the
log that the verbosity asks for are shown.
-/

namespace Groundwork

/-- What is printed of a run of the program. -/
structure Printed where
  /-- The exit status. -/
  status : Nat
  /-- The output. -/
  output : String
  /-- The error output. -/
  errors : String
  /-- The lines of the log. -/
  log : List String
  deriving DecidableEq, Repr

namespace Event

/-- What is printed of an event to the output. -/
def output : Event → String
  | success text details =>
    "√ " ++ text ++ "\n" ++ String.join (details.map fun detail => "  > " ++ detail ++ "\n")
  | _ => ""

/-- What is printed of an event to the error output. -/
def errors : Event → String
  | failure label cause => "x " ++ label ++ ": " ++ cause ++ "\n"
  | _ => ""

end Event

namespace Printed

/-- What is printed of a report. -/
def ofReport (report : Report) (log : List String) : Printed where
  status := report.outcome.status
  output := String.join (report.events.map Event.output)
  errors := String.join (report.events.map Event.errors)
  log := log

/-- The name and version of the program. -/
def version : String := "oryum 0.1.0-alpha.1"

/-- How the program is used. -/
def usage : String :=
  String.join <|
    ["Scaffolding for Flask/SQLAlchemy projects", "",
      "Usage: oryum [OPTIONS] <COMMAND>", "", "Commands:",
      "  new <PATH>               Create a new project",
      "  make-model <NAME>        Generate a SQLAlchemy model",
      "  make-controller <NAME>   Generate a Flask controller", "", "Options:",
      "      --lang <LANG>  Interface language: en or pt-br",
      "  -v, --verbose...   Increase log verbosity",
      "  -h, --help         Print help",
      "  -V, --version      Print version"].map (· ++ "\n")

/-- What is printed when a command line runs no command. -/
def ofStop : Line.Stop → Printed
  | .version => ⟨0, version ++ "\n", "", []⟩
  | .help => ⟨0, usage, "", []⟩
  | .misuse => ⟨2, "", usage, []⟩

end Printed

/-- The lines of the log that a verbosity asks for. -/
def Log.lines (verbosity : Nat) (records : List Log.Record) : List String :=
  (Log.shown (Log.Level.ofVerbosity verbosity) records).map Log.Record.line

/-- Runs the program in a workspace: the arguments of the command line, the directory it is run in,
and what is printed. -/
def Workspace.execute [Explanations] (directory : Path) (arguments : List String) :
    StateM Workspace Printed := do
  match Line.parse arguments with
  | .error stop => pure (.ofStop stop)
  | .ok line =>
    let before := (← get).log.length
    let report ← line.command.run ⟨directory, line.language⟩
    let records := (← get).log.drop before
    pure (.ofReport report (Log.lines line.verbosity records))

end Groundwork
