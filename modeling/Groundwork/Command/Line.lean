import Groundwork.Command.Make
import Groundwork.Command.New

/-!
# The command line

A command line gives the name of a command, its operand, and options: first those of the program,
then, after the name, those of the command. The options for the language and the verbosity can be
given in both places; the later place counts. `Line.parse` goes from left to right and stops at the
first request for help or the version and at the first misuse.
-/

namespace Groundwork

/-- A command with its arguments. -/
inductive Command
  /-- Make a project. -/
  | new (command : New)
  /-- Make an artifact. -/
  | make (command : Make)
  deriving DecidableEq, Repr

namespace Command

variable {m : Type → Type} [Monad m] [FileStore m]

/-- Runs a command. -/
def run (command : Command) (setting : Setting) : m Report :=
  match command with
  | new command => command.run setting
  | make command => command.run setting

end Command

/-- What a command line asks for. -/
structure Line where
  /-- The language of the interface. -/
  language : Language
  /-- How often more log has been asked for. -/
  verbosity : Nat
  /-- The command. -/
  command : Command
  deriving DecidableEq, Repr

namespace Line

/-- The cause for which a command line runs no command. -/
inductive Stop
  /-- The version is asked for. -/
  | version
  /-- Help is asked for. -/
  | help
  /-- The command line cannot be understood. -/
  | misuse
  deriving DecidableEq, Repr

/-! ## Options -/

/-- An option. -/
inductive Switch
  | language
  | verbose
  | help
  | version
  | fields
  | relationships
  | timestamps (on : Bool)
  deriving DecidableEq, Repr

/-- The part of a command line that options stand in. -/
inductive Place
  /-- Before the name of a command. -/
  | program
  /-- After the name of the command that makes projects. -/
  | new
  /-- After the name of the command that makes artifacts of a kind. -/
  | make (kind : ArtifactKind)
  deriving DecidableEq, Repr

/-- Whether a value belongs to an option. -/
def Switch.takesValue : Switch → Bool
  | language | fields | relationships => true
  | _ => false

/-- The options of a place, each with its long name and, if it has one, its letter. -/
def Place.switches (place : Place) : List (Switch × String × Option Char) :=
  [(.language, "lang", none), (.verbose, "verbose", some 'v'), (.help, "help", some 'h')] ++
    match place with
    | program => [(.version, "version", some 'V')]
    | new => []
    | make .controller => [(.fields, "fields", some 'f')]
    | make .model =>
      [(.fields, "fields", some 'f'), (.relationships, "relationships", some 'r'),
        (.timestamps true, "timestamps", none), (.timestamps false, "no-timestamps", none)]

/-- The option with a long name. -/
def Place.long? (place : Place) (name : String) : Option Switch :=
  (place.switches.find? fun s => s.2.1 == name).map (·.1)

/-- The option with a letter. -/
def Place.short? (place : Place) (letter : Char) : Option Switch :=
  (place.switches.find? fun s => s.2.2 == some letter).map (·.1)

/-! ## What has been given -/

/-- What has been given in a place. -/
structure Given where
  /-- The language. -/
  language : Option Language := none
  /-- How often more log has been asked for. -/
  verbosity : Nat := 0
  /-- The fields. -/
  fields : Option String := none
  /-- The relationships. -/
  relationships : Option String := none
  /-- Whether there are columns for the times of creation and change. -/
  timestamps : Option Bool := none
  /-- The operand. -/
  operand : Option String := none
  deriving DecidableEq, Repr

/-- The words for the languages. -/
def languageWords : List (String × Language) :=
  [("en", .english), ("pt-br", .portuguese), ("pt_br", .portuguese), ("pt", .portuguese)]

namespace Given

/-- What has been given, with an option that takes no value. Columns for times can be turned on and
off again, but not the same way twice running. -/
def flag (given : Given) : Switch → Except Stop Given
  | .verbose => .ok { given with verbosity := given.verbosity + 1 }
  | .help => .error .help
  | .version => .error .version
  | .timestamps on =>
    if given.timestamps = some on then .error .misuse else .ok { given with timestamps := some on }
  | .language | .fields | .relationships => .error .misuse

/-- What has been given, with an option and its value. Every option is given once at most. -/
def option (given : Given) (value : String) : Switch → Except Stop Given
  | .language =>
    match given.language, languageWords.lookup value with
    | none, some language => .ok { given with language := some language }
    | _, _ => .error .misuse
  | .fields =>
    if given.fields.isSome then .error .misuse else .ok { given with fields := some value }
  | .relationships =>
    if given.relationships.isSome then .error .misuse
    else .ok { given with relationships := some value }
  | .verbose | .help | .version | .timestamps _ => .error .misuse

/-- What has been given, with an operand. There is one operand. -/
def withOperand (given : Given) (value : String) : Except Stop Given :=
  if given.operand.isSome then .error .misuse else .ok { given with operand := some value }

end Given

/-! ## Reading arguments -/

/-- The forms that an argument can have. -/
inductive Argument
  /-- Two hyphens, after which only operands follow. -/
  | separator
  /-- A long option, with a value after an equals sign or not. -/
  | long (name : String) (value : Option String)
  /-- Options by their letters. -/
  | short (letters : List Char)
  /-- An operand, or the value of an option. -/
  | plain (value : String)
  deriving DecidableEq, Repr

/-- The form of an argument. A single hyphen is an operand. -/
def Argument.ofText (s : String) : Argument :=
  match s.toList with
  | ['-', '-'] => separator
  | '-' :: '-' :: cs =>
    let (name, value) := Text.cutFirst '=' cs
    long (String.ofList name) (value.map String.ofList)
  | '-' :: c :: cs => short (c :: cs)
  | _ => plain s

/-- What has been given, with options by their letters. The rest of the letters after an option that
takes a value is its value, an equals sign in front left out; if there is no rest, the option still
needs its value. -/
def readLetters (place : Place) (given : Given) : List Char → Except Stop (Given × Option Switch)
  | [] => .ok (given, none)
  | letter :: letters =>
    match place.short? letter with
    | none => .error .misuse
    | some switch =>
      if switch.takesValue then
        match letters with
        | [] => .ok (given, some switch)
        | '=' :: value | value => do
          let given ← given.option (String.ofList value) switch
          pure (given, none)
      else do
        let given ← given.flag switch
        readLetters place given letters

/-- What has been given, with a long option, and whether it still needs its value. -/
def readLong (place : Place) (given : Given) (name : String) (value : Option String) :
    Except Stop (Given × Option Switch) :=
  match place.long? name with
  | none => .error .misuse
  | some switch =>
    match switch.takesValue, value with
    | true, none => .ok (given, some switch)
    | true, some value => do
      let given ← given.option value switch
      pure (given, none)
    | false, none => do
      let given ← given.flag switch
      pure (given, none)
    | false, some _ => .error .misuse

/-- What the arguments in a place give, when an option waits for its value or none does, and the
arguments from the name of a command on. -/
def read (place : Place) (given : Given) (waiting : Option Switch) :
    List String → Except Stop (Given × List String)
  | [] => if waiting.isSome then .error .misuse else .ok (given, [])
  | argument :: arguments =>
    match waiting, Argument.ofText argument with
    | some switch, .plain value => do
      let given ← given.option value switch
      read place given none arguments
    | some _, _ => .error .misuse
    | none, .long name value => do
      let (given, waiting) ← readLong place given name value
      read place given waiting arguments
    | none, .short letters => do
      let (given, waiting) ← readLetters place given letters
      read place given waiting arguments
    | none, .separator =>
      if place = .program then .error .misuse
      else do
        let given ← arguments.foldlM Given.withOperand given
        pure (given, [])
    | none, .plain value =>
      if place = .program then .ok (given, argument :: arguments)
      else do
        let given ← given.withOperand value
        read place given none arguments

/-! ## Whole command lines -/

/-- The places by the names of their commands. -/
def commands : List (String × Place) :=
  [("new", .new), ("make-model", .make .model), ("make:model", .make .model),
    ("make-controller", .make .controller), ("make:controller", .make .controller)]

/-- The command of a place with an operand and what else has been given. The path of a project is
not empty. -/
def commandOf (place : Place) (given : Given) (operand : String) : Except Stop Command :=
  match place with
  | .program => .error .misuse
  | .new => if operand = "" then .error .misuse else .ok (.new ⟨⟨operand⟩⟩)
  | .make kind =>
    .ok (.make ⟨kind, operand, given.fields, given.relationships, given.timestamps⟩)

/-- What the arguments after the request for help ask for. -/
def parseHelp : List String → Stop
  | [] => .help
  | [name] => if name = "help" || (commands.lookup name).isSome then .help else .misuse
  | _ => .misuse

/-- What a command line asks for. -/
def parse (arguments : List String) : Except Stop Line := do
  let (outer, rest) ← read .program {} none arguments
  match rest with
  | [] => throw .misuse
  | name :: rest =>
    match commands.lookup name with
    | none => throw (if name = "help" then parseHelp rest else .misuse)
    | some place =>
      let (inner, _) ← read place {} none rest
      match inner.operand with
      | none => throw .misuse
      | some operand =>
        let command ← commandOf place inner operand
        pure
          { language := (inner.language <|> outer.language).getD .english
            verbosity := if inner.verbosity = 0 then outer.verbosity else inner.verbosity
            command := command }

end Line

end Groundwork
