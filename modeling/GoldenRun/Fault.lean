/-!
# Faults of the file system

Why an operation on a file, or the start of a program, was refused.
-/

namespace GoldenRun

/-- The cause of a refused operation. -/
inductive Fault
  | missing
  | argumentsTooLong
  | notAProgram
  | denied
  | alreadyExists
  | notADirectory
  | isADirectory
  | nameTooLong
  | tooManyLinks
  | notText
  | notFound
  | zeroInName
  | zeroInArgument
  | other (text : String)
  deriving DecidableEq, Repr

/-- The text of a fault, with the number that the operating system gives it if there is one. -/
def Fault.message : Fault → String
  | missing => "No such file or directory (os error 2)"
  | argumentsTooLong => "Argument list too long (os error 7)"
  | notAProgram => "Exec format error (os error 8)"
  | denied => "Permission denied (os error 13)"
  | alreadyExists => "File exists (os error 17)"
  | notADirectory => "Not a directory (os error 20)"
  | isADirectory => "Is a directory (os error 21)"
  | nameTooLong => "File name too long (os error 36)"
  | tooManyLinks => "Too many levels of symbolic links (os error 40)"
  | notText => "stream did not contain valid UTF-8"
  | notFound => "entity not found"
  | zeroInName => "file name contained an unexpected NUL byte"
  | zeroInArgument => "nul byte found in provided data"
  | other text => text

end GoldenRun
