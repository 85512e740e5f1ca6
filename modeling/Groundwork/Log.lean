import Groundwork.Text.Hidden

/-!
# The log

What a command notes about its own working, apart from what it reports to the user. A record has a
level, a message and named values; the verbosity asked for decides which levels are shown.
-/

namespace Groundwork.Log

/-- How important a record is. -/
inductive Level
  | debug
  | info
  | warn
  deriving DecidableEq, Repr

namespace Level

/-- The rank of a level: the higher, the more important. -/
def rank : Level → Nat
  | debug => 0
  | info => 1
  | warn => 2

/-- The name of a level where a record is printed. -/
def label : Level → String
  | debug => "DEBUG"
  | info => "INFO"
  | warn => "WARN"

/-- The name of a level as a threshold. -/
def name : Level → String
  | debug => "debug"
  | info => "info"
  | warn => "warn"

/-- The least level that is shown when verbosity has been asked for `n` times. -/
def ofVerbosity : Nat → Level
  | 0 => warn
  | 1 => info
  | _ => debug

end Level

/-- A record of the log. -/
structure Record where
  /-- How important it is. -/
  level : Level
  /-- What happened. -/
  message : String
  /-- Named values, as they are printed. -/
  values : List (String × String)
  deriving DecidableEq, Repr

namespace Record

/-- The line that prints a record. -/
def line (r : Record) : String :=
  r.values.foldl (fun line (name, value) => line ++ " " ++ name ++ "=" ++ value)
    (r.level.label ++ " " ++ r.message)

end Record

/-- The records that a threshold lets through. -/
def shown (threshold : Level) (records : List Record) : List Record :=
  records.filter fun r => threshold.rank ≤ r.level.rank

/-! ## Quoted values -/

/-- The digits of a number in hexadecimal. -/
def hexadecimal (n : Nat) : String := String.ofList (Nat.toDigits 16 n)

/-- The spelling of a character in a quoted value: quotes, backslashes and the common controls have
short escapes, and a character without a visible form is given by its number. -/
def spell (c : Char) : String :=
  if c = '"' then "\\\""
  else if c = '\\' then "\\\\"
  else if c = '\n' then "\\n"
  else if c = '\r' then "\\r"
  else if c = '\t' then "\\t"
  else if c = '\x00' then "\\0"
  else if Text.hidden.has c then "\\u\x7b" ++ hexadecimal c.toNat ++ "\x7d"
  else c.toString

/-- A text in double quotes. -/
def quoted (s : String) : String := "\"" ++ s.toList.foldl (fun q c => q ++ spell c) "" ++ "\""

/-- A path in double quotes, where an apostrophe has a backslash as well. -/
def quotedPath (s : String) : String :=
  "\"" ++ s.toList.foldl (fun q c => q ++ if c = '\'' then "\\'" else spell c) "" ++ "\""

end Groundwork.Log
