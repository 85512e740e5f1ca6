/-!
# What can go wrong with a file

The causes for which an operation on a file or directory fails, each with the text that tells the
user about it.
-/

namespace Groundwork

/-- The cause for which an operation on a file or directory fails. -/
inductive FileError
  /-- Something on the way, or the entry itself, is missing. -/
  | notFound
  /-- The entry to be made is there already. -/
  | alreadyThere
  /-- Something on the way is not a directory. -/
  | notADirectory
  /-- The entry is a directory. -/
  | isADirectory
  /-- A name or a path is too long. -/
  | nameTooLong
  /-- There are too many links on the way. -/
  | tooManyLinks
  /-- The path holds a null character. -/
  | nullInPath
  /-- The bytes of the file are not text. -/
  | notText
  /-- Any other cause, by its number and description. -/
  | other (number : Nat) (description : String)
  deriving DecidableEq, Repr

namespace FileError

/-- A description with the number that the operating system gives the cause. -/
def numbered (description : String) (number : Nat) : String :=
  s!"{description} (os error {number})"

/-- The text that reports the cause. -/
def message : FileError → String
  | notFound => numbered "No such file or directory" 2
  | alreadyThere => numbered "File exists" 17
  | notADirectory => numbered "Not a directory" 20
  | isADirectory => numbered "Is a directory" 21
  | nameTooLong => numbered "File name too long" 36
  | tooManyLinks => numbered "Too many levels of symbolic links" 40
  | nullInPath => "file name contained an unexpected NUL byte"
  | notText => "stream did not contain valid UTF-8"
  | other number description => numbered description number

/-- The cause that the operating system gives a number to. -/
def ofNumber (number : Nat) (description : String) : FileError :=
  match number with
  | 2 => notFound
  | 17 => alreadyThere
  | 20 => notADirectory
  | 21 => isADirectory
  | 36 => nameTooLong
  | 40 => tooManyLinks
  | number => other number description

end FileError

end Groundwork
