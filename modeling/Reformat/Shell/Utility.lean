import Reformat.Shell.Effect
import Reformat.Shell.Options

/-!
What the utilities share that a script finds beside the commands of the shell itself: their messages,
and the sources that they read.
-/

namespace Reformat.Shell

/-- A utility, which is given its name and its arguments, and gives its status. -/
abbrev Utility := Text → List Text → Effect Nat

namespace Utility

open Effect

/-- A reason as it stands behind the name of a file. -/
def reason : SystemError → Text
  | .notFound => "No such file or directory".toList
  | .permissionDenied => "Permission denied".toList
  | .fileExists => "File exists".toList
  | .notADirectory => "Not a directory".toList
  | .isADirectory => "Is a directory".toList
  | .notText => "Invalid argument".toList
  | .badFormat => "Exec format error".toList
  | .nameTooLong => "File name too long".toList

/-- A word between quotes. -/
def enclosed (word : Text) : Text :=
  '\'' :: word ++ ['\'']

/-- The name of a file in a message, in quotes where it could be misread. -/
def shownName (name : Text) : Text :=
  let isClear (c : Char) : Bool := c.isAlphanum || "%+,-./@_".toList.contains c
  if !name.isEmpty && name.all isClear then name else enclosed name

/-- Tells a message. -/
def tell (name message : Text) : Effect Nat := do
  sayError (name ++ ": ".toList ++ message ++ ['\n'])
  return 1

/-- Complains about how a utility is used. -/
def misuse (name message : Text) : Effect Nat :=
  tell name (message ++ "\nTry '".toList ++ name ++ " --help' for more information.".toList)

/-- Does something with what arguments tell, unless they are not understood. -/
def withGiven (flags valued : List Char) (act : Text → Given → Effect Nat) : Utility :=
  fun name arguments =>
    match Options.read ⟨flags, valued, false⟩ arguments with
    | .ok given => act name given
    | .error (.unknown letter) => misuse name ("invalid option -- ".toList ++ enclosed [letter])
    | .error (.lacking letter) =>
        misuse name ("option requires an argument -- ".toList ++ enclosed [letter])
    | .error (.unknownName option) =>
        misuse name ("unrecognized option ".toList ++ enclosed ('-' :: '-' :: option))

/-- Does something for each operand, and gives the worst status. -/
def eachOperand (operands : List Text) (act : Text → Effect Nat) : Effect Nat := do
  return (← operands.mapM act).foldl max 0

/-- What the operands name that are read: the input, where there is none. -/
def sources (given : Given) : List Text :=
  if given.operands.isEmpty then [['-']] else given.operands

/-- The text of a source: a file, or what is still to be read of the input. -/
def contentOf (source : Text) : Effect (Except SystemError Text) := do
  if source == ['-'] then
    return .ok (← readAll 0)
  return textOf (← get) source

end Utility

end Reformat.Shell
