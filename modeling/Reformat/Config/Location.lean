import Reformat.Files.Path

/-!
Where the defaults are kept: a global file for the user and a local one in the working directory.
-/

namespace Reformat

/-- What the environment says about the user's directories. -/
structure Environment where
  configHome : Option Path
  home : Option Path
deriving Repr

namespace Config

def localPath : Path :=
  ".fmtpatchrc".toList

/-- A name that is set to nothing counts as set. -/
def globalPath (environment : Environment) : Path :=
  match environment.configHome, environment.home with
  | some directory, _ => Path.join directory "fmtpatch/config".toList
  | none, some directory => Path.join directory ".config/fmtpatch/config".toList
  | none, none => localPath

end Config

end Reformat
