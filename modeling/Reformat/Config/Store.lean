import Reformat.Config.Flags
import Reformat.Files.Tree
import Reformat.Text.Blank

/-!
Files of defaults: options on lines, between blanks, with comment lines that start with `#`.
-/

namespace Reformat.Config

/-- Why a file of defaults could not be used. -/
inductive Complaint where
  | read (path : Path) (cause : SystemError)
  | makeDirectory (path : Path) (cause : SystemError)
  | write (path : Path) (cause : SystemError)
  | remove (path : Path) (cause : SystemError)
deriving DecidableEq, Repr

def Complaint.message : Complaint → Text
  | read path _ => "Failed to read config ".toList ++ path
  | makeDirectory path _ => "Failed to create config dir ".toList ++ path
  | write path _ => "Failed to write config ".toList ++ path
  | remove path _ => "Failed to remove ".toList ++ path

def Complaint.cause : Complaint → SystemError
  | read _ cause => cause
  | makeDirectory _ cause => cause
  | write _ cause => cause
  | remove _ cause => cause

/-- The tokens of a file of defaults. -/
def tokens (content : Text) : List Text :=
  let meant := ((content.splitOn '\n').map Text.trim).filter fun line =>
    !line.isEmpty && line.head? != some '#'
  meant.flatMap Text.words

/-- The lines that keep flags. -/
def savedLines (flags : Flags) : List Text :=
  "# fmtpatch defaults (saved with --save)".toList ::
    (Flags.Field.all.filterMap fun field =>
      (flags.get field).map fun value => field.name ++ ' ' :: value) ++
    if flags.verbose then ["--verbose".toList] else []

def savedText (flags : Flags) : Text :=
  ['\n'].intercalate (savedLines flags) ++ ['\n']

/-- A file that is not there keeps no defaults. -/
def load (tree : Tree) (path : Path) : Except Complaint Flags :=
  if tree.has path then
    match tree.readText path with
    | .ok content => .ok (Flags.ofTokens (tokens content))
    | .error cause => .error (.read path cause)
  else
    .ok Flags.empty

/-- Makes the directory that is to hold a file, as far as its path names one. -/
def makeParent (tree : Tree) (path : Path) : Except Complaint Unit × Tree :=
  match Path.parent? path with
  | none => (.ok (), tree)
  | some parent =>
      match tree.makeDirectories parent with
      | (.ok (), made) => (.ok (), made)
      | (.error cause, made) => (.error (.makeDirectory parent cause), made)

/-- Replaces the defaults kept in a file. -/
def save (tree : Tree) (path : Path) (flags : Flags) : Except Complaint Unit × Tree :=
  match makeParent tree path with
  | (.error complaint, made) => (.error complaint, made)
  | (.ok (), made) =>
      match made.write path (Utf8.encode (savedText flags)) with
      | .ok written => (.ok (), written)
      | .error cause => (.error (.write path cause), made)

/-- Removes a file of defaults, if it is there. -/
def clear (tree : Tree) (path : Path) : Except Complaint Unit × Tree :=
  if tree.has path then
    match tree.remove path with
    | .ok removed => (.ok (), removed)
    | .error cause => (.error (.remove path cause), tree)
  else
    (.ok (), tree)

end Reformat.Config
