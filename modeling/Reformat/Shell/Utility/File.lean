import Reformat.Shell.Mode
import Reformat.Shell.Utility

/-!
Utilities that make files and directories, and change who may run them.
-/

namespace Reformat.Shell.Utility

open Effect

/-- Complains about an operand that cannot be treated as is asked. -/
def refuse (name : Text) (problem : String) (operand : Text) (cause : SystemError) : Effect Nat :=
  tell name (problem.toList ++ ' ' :: enclosed operand ++ ": ".toList ++ reason cause)

/-- Makes a directory. -/
def makeDirectory (name path : Text) : Effect Nat := do
  match (← tree).makeDirectory path with
  | .ok changed =>
      putTree changed
      return 0
  | .error cause => refuse name "cannot create directory" path cause

/-- A path and the paths above it, from the highest one on. -/
def steps (path : Text) : List Text :=
  let pieces := path.splitOn '/'
  ((List.range pieces.length).map fun index => ['/'].intercalate (pieces.take (index + 1))).filter
    (!·.isEmpty)

/-- Makes the directories of a list as far as they are missing, up to one that cannot be made. -/
def makeMissing (name : Text) : List Text → Effect Nat
  | [] => return 0
  | path :: rest => do
      match (← tree).lookup path with
      | .ok .directory => makeMissing name rest
      | .ok (.file _) =>
          let cause := if rest.isEmpty then SystemError.fileExists else .notADirectory
          refuse name "cannot create directory" path cause
      | .error _ =>
          match ← makeDirectory name path with
          | 0 => makeMissing name rest
          | status => return status

def mkdir : Utility :=
  withGiven ['p'] [] fun name given => do
    if given.operands.isEmpty then
      return ← misuse name "missing operand".toList
    eachOperand given.operands fun operand =>
      if given.has 'p' then makeMissing name (steps operand) else makeDirectory name operand

def touch : Utility :=
  withGiven ['c'] [] fun name given => do
    if given.operands.isEmpty then
      return ← misuse name "missing file operand".toList
    eachOperand given.operands fun operand => do
      match (← tree).locate operand, given.has 'c' with
      | .ok _, _ => return 0
      | .error _, true => return 0
      | .error _, false =>
          match ← putFile operand [] with
          | .ok _ => return 0
          | .error cause => refuse name "cannot touch" operand cause

/-- Whether an argument is a change of permissions, although it looks like an option. -/
def isChange : Text → Bool
  | '-' :: c :: _ => "rwx".toList.contains c
  | _ => false

def chmod : Utility := fun name arguments =>
  match (arguments.filter isChange).head?.toList ++ arguments.filter (!isChange ·) with
  | [] => misuse name "missing operand".toList
  | [mode] => misuse name ("missing operand after ".toList ++ enclosed mode)
  | mode :: operands =>
      match Mode.read? mode with
      | none => misuse name ("invalid mode: ".toList ++ enclosed mode)
      | some changes =>
          eachOperand operands fun operand => do
            match (← tree).locate operand with
            | .error cause => refuse name "cannot access" operand cause
            | .ok location =>
                setMode location (Mode.adjust changes ((← get).modeAt location))
                return 0

/-- Writes a line without end, which is more of it than the output takes. -/
def yes : Utility :=
  withGiven [] [] fun _ given => do
    let words := if given.operands.isEmpty then [['y']] else given.operands
    let line := [' '].intercalate words ++ ['\n']
    say (List.replicate ((← get).endless / line.length + 1) line).flatten
    return 0

end Reformat.Shell.Utility
