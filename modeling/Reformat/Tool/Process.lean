import Reformat.Failure
import Reformat.Files.Path

/-!
Running a tool: what it is given, how it ends, and which ends are accepted.
-/

namespace Reformat

structure Invocation where
  program : Path
  arguments : List Text
  /-- The contents of temporary files whose names follow the arguments. -/
  snapshots : List Bytes
  /-- The standard input, if the tool is given one. -/
  input : Option Bytes
  directory : Path
deriving Repr

structure Completion where
  termination : Termination
  output : Bytes
  diagnostics : Bytes
deriving Repr

/-- Starts a program and waits for its end, unless it cannot be started. -/
abbrev Launcher (m : Type → Type) :=
  Invocation → m (Except SystemError Completion)

/-- Whether a tool ended by exiting with one of the accepted codes. -/
def Termination.accepted (codes : List Int) : Termination → Bool
  | exited code => codes.contains code
  | _ => false

def Completion.check (tool : Text) (codes : List Int) (completion : Completion) :
    Except Failure Completion :=
  if completion.termination.accepted codes then
    return completion
  else
    throw (.process tool completion.termination (Utf8.decodeLossy completion.diagnostics))

/-- Runs a program as the tool it stands for. -/
def Launcher.run {m : Type → Type} [Monad m]
    (launch : Launcher m) (tool : Text) (codes : List Int) (invocation : Invocation) :
    ExceptT Failure m Completion := do
  match ← (launch invocation : m (Except SystemError Completion)) with
  | .ok completion => MonadExcept.ofExcept (completion.check tool codes)
  | .error .notFound => throw (.precondition (.executable tool invocation.program))
  | .error cause => throw (.system cause)

end Reformat
