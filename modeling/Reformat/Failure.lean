import Reformat.Document.Misfit
import Reformat.Files.Error
import Reformat.Replacements.Parser
import Reformat.Restriction.Basic

/-!
Why formatting fails, cause by cause, and the message of each.
-/

namespace Reformat

/-- How a tool ended. -/
inductive Termination where
  | exited (code : Int)
  | signaled (signal : Int)
  | unknown
deriving DecidableEq, Repr

def Termination.message : Termination → String
  | exited code => s!"exited with status {code}"
  | signaled signal => s!"was killed by signal {signal}"
  | unknown => "terminated abnormally"

/-- What is wrong with the output of a tool. -/
inductive Unreadable where
  | replacements (cause : Replacements.Malformation)
  | lineRange (cause : LineRange.Malformation)
  | notText
  | stated (reason : Text)
deriving DecidableEq, Repr

def Unreadable.message : Unreadable → Text
  | replacements cause => cause.message
  | lineRange cause => cause.message
  | notText => "output is not valid UTF-8".toList
  | stated reason => reason

/-- What the surroundings lack. -/
inductive Precondition where
  | backingFile
  | executable (tool program : Text)
  | fileName (path : Text)
  | repository (path : Text)
  | tracking (path : Text)
  | stated (reason : Text)
deriving DecidableEq, Repr

def Precondition.message : Precondition → Text
  | backingFile => "document has no backing file to compare".toList
  | executable tool program => tool ++ " executable not found: ".toList ++ program
  | fileName path => path ++ " does not name a file".toList
  | repository path => path ++ " is not inside a git repository".toList
  | tracking path => path ++ " is not tracked by git".toList
  | stated reason => reason

inductive Failure where
  | process (tool : Text) (termination : Termination) (diagnostics : Text)
  | malformed (tool : Text) (reason : Unreadable)
  | misfit (cause : Misfit)
  | precondition (cause : Precondition)
  | system (cause : SystemError)
deriving DecidableEq, Repr

/-- Diagnostics are shown without the blanks around them, if there is anything else. -/
def Failure.message : Failure → Text
  | process tool termination diagnostics =>
      let shown := Text.trim diagnostics
      tool ++ ' ' :: termination.message.toList ++
        if shown.isEmpty then [] else ':' :: ' ' :: shown
  | malformed tool reason =>
      "malformed ".toList ++ tool ++ " output: ".toList ++ reason.message
  | misfit cause => cause.message.toList
  | precondition cause => cause.message
  | system cause => cause.message.toList

end Reformat
