/-!
# File errors

The ways in which reading or writing a file fails, and their messages.
-/

namespace Worksheet

/-- The ways in which reading or writing a file fails. -/
inductive FileError where
  /-- The file, or a directory on the way to it, does not exist. -/
  | notFound
  /-- A part of the path that should be a directory is a file. -/
  | notDirectory
  | isDirectory
  /-- The path or one of its names has too many bytes. -/
  | nameTooLong
  /-- The path holds a zero character. -/
  | zeroInName
  /-- The bytes of the file are not UTF-8. -/
  | notText
  deriving DecidableEq, Repr

/-- The message for a failure. -/
def FileError.message : FileError → String
  | .notFound => "No such file or directory (os error 2)"
  | .notDirectory => "Not a directory (os error 20)"
  | .isDirectory => "Is a directory (os error 21)"
  | .nameTooLong => "File name too long (os error 36)"
  | .zeroInName => "file name contained an unexpected NUL byte"
  | .notText => "stream did not contain valid UTF-8"

end Worksheet
