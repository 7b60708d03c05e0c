import Reformat.Shell.Run

/-!
Starting programs: those that are always there, and tools that answer as they were recorded. What a
program changes in the tree stays for the next one, and every call of a recorded tool is kept in order.
-/

namespace Reformat.Recording

/-- Starts a program in a directory of the tree. -/
def launch (recordings : List Recording) : Launcher (StateT Tree (StateM (List Call))) :=
  fun invocation => do
    let tree ← getThe Tree
    match tree.locate invocation.directory with
    | .error cause => return .error cause
    | .ok location =>
        if tree.find? location != some .directory then
          return .error .notADirectory
        if recordings.any (·.program == invocation.program) then
          modifyThe (List Call) (· ++ [⟨invocation, location⟩])
          return .ok (play recordings invocation)
        let input := invocation.input.getD []
        match
          Shell.Run.program recordings invocation.program invocation.arguments input tree location
        with
        | .error cause => return .error cause
        | .ok ending =>
            set ending.tree
            modifyThe (List Call) (· ++ ending.calls)
            return .ok ending.completion

end Reformat.Recording
