import Reformat.Format.Collaborator
import Reformat.Tool.Output

/-!
The comparison by `diff`, which prints the lines of the second file that changed as ranges.
-/

namespace Reformat

structure GnuDiff where
  program : Path

namespace GnuDiff

def tool : Text :=
  "diff".toList

def standard : GnuDiff :=
  ⟨tool⟩

/-- Nothing is printed for lines that are the same or were deleted. -/
def formatArguments : List Text :=
  ["--unchanged-group-format=".toList,
    "--old-group-format=".toList,
    "--new-group-format=%dF:%dL ".toList,
    "--changed-group-format=%dF:%dL ".toList]

/-- The ranges that the tool reports by its end: none if it found no difference. -/
def changedLines (completion : Completion) : Except Failure (List LineRange) :=
  if completion.termination = .exited 0 then
    return []
  else do
    LineRange.ofOutput tool (← completion.text tool)

def comparer {m : Type → Type} [Monad m] (diff : GnuDiff) (launch : Launcher m) :
    Comparer m := fun baseline current => do
  let completion ← launch.run tool [0, 1] {
    program := diff.program
    arguments := formatArguments ++ ["--".toList]
    snapshots := [baseline, current]
    input := none
    directory := ['.'] }
  MonadExcept.ofExcept (changedLines completion)

end GnuDiff

end Reformat
