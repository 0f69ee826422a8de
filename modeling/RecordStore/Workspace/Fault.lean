/-!
# Faults of files

Why a file or a directory cannot be read or made, with the system's text and
number.
-/

namespace RecordStore

/-- Why the system refuses an operation on a path. -/
inductive FileFault where
  | notFound
  | alreadyExists
  | notADirectory
  | isADirectory
  | nameTooLong
  | nulInName
  | notText
  deriving DecidableEq, Repr

namespace FileFault

/-- The system's text with its number. -/
def numbered (meaning : String) (number : Nat) : String :=
  s!"{meaning} (os error {number})"

/-- What the fault says to a reader. -/
def message : FileFault → String
  | notFound => numbered "No such file or directory" 2
  | alreadyExists => numbered "File exists" 17
  | notADirectory => numbered "Not a directory" 20
  | isADirectory => numbered "Is a directory" 21
  | nameTooLong => numbered "File name too long" 36
  | nulInName => "file name contained an unexpected NUL byte"
  | notText => "stream did not contain valid UTF-8"

end FileFault

end RecordStore
