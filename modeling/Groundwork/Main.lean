import Groundwork.Command.Console

/-!
# The program

The disk as a store of files, and the program that runs the command on its command line there. The
records of the log are printed as they are made, the report at the end.
-/

namespace Groundwork

/-- Computations on the disk that show the records of the log from a level on. -/
abbrev Disk := ReaderT Log.Level IO

namespace Disk

/-- The number and the description of what the operating system has refused. -/
def refusal : IO.Error → Nat × String
  | .alreadyExists _ n s => (n.toNat, s)
  | .otherError n s => (n.toNat, s)
  | .resourceBusy n s => (n.toNat, s)
  | .resourceVanished n s => (n.toNat, s)
  | .unsupportedOperation n s => (n.toNat, s)
  | .hardwareFault n s => (n.toNat, s)
  | .unsatisfiedConstraints n s => (n.toNat, s)
  | .illegalOperation n s => (n.toNat, s)
  | .protocolError n s => (n.toNat, s)
  | .timeExpired n s => (n.toNat, s)
  | .interrupted _ n s => (n.toNat, s)
  | .noFileOrDirectory _ n s => (n.toNat, s)
  | .invalidArgument _ n s => (n.toNat, s)
  | .permissionDenied _ n s => (n.toNat, s)
  | .resourceExhausted _ n s => (n.toNat, s)
  | .inappropriateType _ n s => (n.toNat, s)
  | .noSuchThing _ n s => (n.toNat, s)
  | .unexpectedEof => (0, "unexpected end of file")
  | .userError s => (0, s)

/-- Tries to do something with the file or directory at a path. -/
def attempt {α : Type} (p : Path) (action : IO α) : IO (Except FileError α) := do
  if p.text.toList.contains '\x00' then return .error .nullInPath
  match ← action.toBaseIO with
  | .ok a => return .ok a
  | .error e => return .error (.ofNumber (refusal e).1 (refusal e).2)

/-- Whether a path leads to anything. -/
def has (p : Path) : IO Bool := return (← attempt p (IO.FS.realPath p.text)).isOk

/-- Whether a path leads to a directory. Only a directory can be gone through. -/
def isDirectory (p : Path) : IO Bool := has (p.join ⟨"."⟩)

/-- Writes bytes to a file that is opened in a mode. -/
def write (p : Path) (mode : IO.FS.Mode) (bytes : List UInt8) : IO (Except FileError Unit) :=
  attempt p <| IO.FS.withFile p.text mode fun file => file.write ⟨bytes.toArray⟩

instance : FileStore Disk where
  has p := has p
  isFile p := do return (← has p) && !(← isDirectory p)
  isDirectory p := isDirectory p
  read p := do return (← attempt p (IO.FS.readBinFile p.text)).map (·.toList)
  makeDirectory p := attempt p (IO.FS.createDir p.text)
  create p bytes := write p .writeNew bytes
  append p bytes := write p .append bytes
  note r := do
    if (← read).rank ≤ r.level.rank then
      IO.eprintln r.line

end Disk

/-- Prints what there is to print, and gives the exit status. -/
def Printed.show (printed : Printed) : IO UInt32 := do
  IO.print printed.output
  IO.eprint printed.errors
  return printed.status.toUInt32

/-- Runs the program with the arguments of its command line. -/
def runProgram (arguments : List String) : IO UInt32 := do
  match Line.parse arguments with
  | .error stop => (Printed.ofStop stop).show
  | .ok line =>
    let directory : Path := ⟨toString (← IO.currentDir)⟩
    let run : Disk Report := line.command.run ⟨directory, line.language⟩
    let report ← run (Log.Level.ofVerbosity line.verbosity)
    (Printed.ofReport report []).show

end Groundwork

/-- The program. -/
def main (arguments : List String) : IO UInt32 := Groundwork.runProgram arguments
