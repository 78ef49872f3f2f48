/-!
# Operating system errors

The reasons for which the operating system refuses to open, read or map a file, with the texts that
it gives them.
-/

namespace TargetLink

/-- Why the operating system refused. -/
inductive OsError where
  /-- There is no such entry. -/
  | notFound
  /-- Memory for a mapping is not available. -/
  | outOfMemory
  /-- There is nothing behind a file that could be mapped. -/
  | noDevice
  /-- A path leads through something that is no directory. -/
  | notADirectory
  /-- A file was expected, and a directory found. -/
  | isADirectory
  /-- A name in a path is too long. -/
  | nameTooLong
  /-- A path holds a zero byte. -/
  | zeroByteInPath
  /-- No bytes were asked to be mapped. -/
  | emptyMapping
  /-- More bytes were asked to be mapped than a signed word counts. -/
  | mappingOverflow
  /-- Any other reason, with the number and the text that the system gives it. -/
  | other (number : Nat) (text : String)
  deriving DecidableEq, Repr

/-- The reason in words. -/
def OsError.message : OsError → String
  | .notFound => "No such file or directory (os error 2)"
  | .outOfMemory => "Cannot allocate memory (os error 12)"
  | .noDevice => "No such device (os error 19)"
  | .notADirectory => "Not a directory (os error 20)"
  | .isADirectory => "Is a directory (os error 21)"
  | .nameTooLong => "File name too long (os error 36)"
  | .zeroByteInPath => "file name contained an unexpected NUL byte"
  | .emptyMapping => "zero-length mapping"
  | .mappingOverflow => "memory map length overflows isize"
  | .other number text => text ++ " (os error " ++ toString number ++ ")"

end TargetLink
