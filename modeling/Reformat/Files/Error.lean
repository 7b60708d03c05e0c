/-!
The ways in which the system refuses a file or a program.
-/

namespace Reformat

inductive SystemError where
  | notFound
  | permissionDenied
  | fileExists
  | notADirectory
  | isADirectory
  /-- The content was asked for as text and is not UTF-8. -/
  | notText
  /-- The file is no program, and no script either. -/
  | badFormat
  | nameTooLong
deriving DecidableEq, Repr

def SystemError.message : SystemError → String
  | notFound => "No such file or directory (os error 2)"
  | permissionDenied => "Permission denied (os error 13)"
  | fileExists => "File exists (os error 17)"
  | notADirectory => "Not a directory (os error 20)"
  | isADirectory => "Is a directory (os error 21)"
  | notText => "stream did not contain valid UTF-8"
  | badFormat => "Exec format error (os error 8)"
  | nameTooLong => "File name too long (os error 36)"

end Reformat
