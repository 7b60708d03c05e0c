import Reformat.Shell.Command
import Reformat.Files.Tree
import Reformat.Shell.Mode

/-!
What can be run: the programs that are always there, and the files that may be run. A file is run by
the program that its first line names, or else by a shell.
-/

namespace Reformat.Shell

/-- What a path names that can be run. -/
inductive Executable where
  | program (name : Text)
  | script (text : Text)
deriving DecidableEq, Repr

/-- A program that is to be started: the name that it is told, and its arguments. -/
structure Task where
  program : Text
  name : Text
  arguments : List Text
deriving DecidableEq, Repr

namespace Executable

/-- Where something that can be run is looked for: in a tree, where everything has its permissions, and
among tools. -/
structure System where
  tree : Tree
  modeAt : Location → Mode
  tools : List Text

/-- The names of the programs that are always there. -/
def programs : List Text :=
  ["cat", "chmod", "dash", "echo", "false", "head", "mkdir", "printf", "sh", "touch", "tr", "true",
    "wc", "yes"].map String.toList

/-- The directories of every system, each behind the one that it lies in. -/
def directories : List Location :=
  ["/bin", "/boot", "/dev", "/etc", "/home", "/lib", "/media", "/mnt", "/opt", "/proc", "/root",
    "/run", "/sbin", "/srv", "/sys", "/tmp", "/usr", "/usr/bin", "/usr/lib", "/usr/local",
    "/usr/local/bin", "/usr/sbin", "/usr/share", "/var", "/var/tmp"].map fun path =>
      (path.toList.drop 1).splitOn '/'

/-- The directories in which the programs lie. -/
def programDirectories : List Location :=
  [["usr", "bin"], ["bin"]].map fun names => names.map String.toList

/-- The directory in which the tools lie. -/
def toolDirectory : Location :=
  ["usr", "local", "bin"].map String.toList

def devices : List Text :=
  ["/dev/null", "/dev/zero", "/dev/stdin", "/dev/stdout", "/dev/stderr"].map String.toList

/-- A tree with the directories of every system. -/
def furnish (tree : Tree) : Tree :=
  directories.foldl
    (fun tree location =>
      if (tree.find? location).isSome then tree else tree.put location .directory)
    tree

/-- The program or tool at the place that a path names. -/
def programAt? (system : System) (path : Text) : Option Text := do
  let ending ← (system.tree.ending path).toOption
  let names :=
    if ending.directory = toolDirectory then system.tools
    else if programDirectories.contains ending.directory then programs
    else []
  if !ending.slashed && names.contains ending.name then
    return ending.name
  none

/-- What a path names that can be run, or why there is nothing to be run. -/
def find (system : System) (path : Text) : Except SystemError Executable :=
  match system.tree.locate path with
  | .ok location =>
      match system.tree.find? location with
      | some (.file content) =>
          if Mode.isRunnable (system.modeAt location) then
            .ok (.script (Utf8.octets content))
          else
            .error .permissionDenied
      | _ => .error .permissionDenied
  | .error cause =>
      match programAt? system path with
      | some name => .ok (.program name)
      | none => .error (if devices.contains path then .permissionDenied else cause)

/-! ## Scripts -/

def isBlank (c : Char) : Bool :=
  c = ' ' || c = '\t'

/-- The path of the program that a script asks to be run by, and what that is given in front of the
path of the script. -/
def interpreter? (text : Text) : Option (Text × Option Text) :=
  match text with
  | '#' :: '!' :: rest =>
      let line := rest.takeWhile fun c => c ≠ '\n' && c ≠ '\x00'
      let trimmed := (line.reverse.dropWhile isBlank).reverse.dropWhile isBlank
      let path := trimmed.takeWhile fun c => !isBlank c
      let given := (trimmed.drop path.length).dropWhile isBlank
      if path.isEmpty then none else some (path, if given.isEmpty then none else some given)
  | _ => none

/-- What is started to run a path as the system does: nothing, for a script that names no program.
A program that is named may be such a script again, but not without end. -/
def task? (system : System) :
    Nat → Text → Text → List Text → Except SystemError (Option Task)
  | 0, _, _, _ => return none
  | fuel + 1, path, name, arguments => do
      match ← find system path with
      | .program known => return some ⟨known, name, arguments⟩
      | .script text =>
          match interpreter? text with
          | none => return none
          | some (other, given) =>
              task? system fuel other other (given.toList ++ path :: arguments)

/-- The program by which a script is run that names none. -/
def shellPath : Text :=
  "/bin/sh".toList

/-- What is started to run a path. -/
def task (system : System) (path name : Text) (arguments : List Text) :
    Except SystemError Task := do
  let found ← task? system 6 path name arguments
  return found.getD ⟨"sh".toList, shellPath, path :: arguments⟩

/-- Whether there is nothing at all to be run. -/
def isAbsence (cause : SystemError) : Bool :=
  cause matches .notFound | .notADirectory

/-- What comes of the first of some paths of which anything does, or else why nothing does. -/
def first {α : Type} (act : Text → Except SystemError α) : List Text → Except SystemError α
  | [] => .error .notFound
  | path :: rest =>
      match act path with
      | .ok value => .ok value
      | .error cause =>
          match first act rest with
          | .ok value => .ok value
          | .error later => .error (if isAbsence later then cause else later)

/-- What is started to run the first of some paths that can be run. -/
def firstTask (system : System) (name : Text) (arguments paths : List Text) :
    Except SystemError Task :=
  first (fun path => task system path name arguments) paths

/-! ## Directories of programs -/

/-- The paths under which a name may stand in directories that are listed between colons. An empty
one is the directory at hand. -/
def candidates (directories name : Text) : List Text :=
  (directories.splitOn ':').map fun directory =>
    if directory.isEmpty then name else directory ++ '/' :: name

/-- The directories that are taken where none are asked for. -/
def standardDirectories : Text :=
  "/usr/local/sbin:/usr/local/bin:/usr/sbin:/usr/bin:/sbin:/bin".toList

end Executable

end Reformat.Shell
