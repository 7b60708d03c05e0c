import Reformat.Format.Collaborator
import Reformat.Tool.Process

/-!
The revisions of a file as `git` has them. The file must lie in a repository and be tracked there.
-/

namespace Reformat

structure Git where
  program : Path

namespace Git

def tool : Text :=
  "git".toList

def standard : Git :=
  ⟨tool⟩

/-- Puts a precondition in the place of a failure of the process itself. -/
def lacking (precondition : Precondition) : Failure → Failure
  | .process _ _ _ => .precondition precondition
  | failure => failure

variable {m : Type → Type} [Monad m]

def run (git : Git) (launch : Launcher m) (directory : Path) (arguments : List Text) :
    ExceptT Failure m Completion :=
  launch.run tool [0] {
    program := git.program
    arguments := arguments
    snapshots := []
    input := none
    directory := directory }

/-- The directory in which a file is looked for. -/
def directoryOf (path : Path) : Path :=
  match Path.parent? path with
  | some parent => if parent.isEmpty then ['.'] else parent
  | none => ['.']

def archive (git : Git) (launch : Launcher m) : Archive m := fun path revision => do
  match Path.fileName? path with
  | none => throw (.precondition (.fileName path))
  | some name =>
      let run := git.run launch (directoryOf path)
      let _ ← (run ["rev-parse".toList, "--show-toplevel".toList]).adapt
        (lacking (.repository path))
      let _ ← (run ["ls-files".toList, "--error-unmatch".toList, "--".toList, name]).adapt
        (lacking (.tracking path))
      let shown ← run ["show".toList, revision ++ ":./".toList ++ name]
      return shown.output

end Git

end Reformat
