import Reformat.Files.Tree
import Reformat.Tool.Process

/-!
Tools that do nothing but answer as they were recorded, and the calls of them. Main statement: a tool
that was recorded to exit exits with the last eight bits of its code.
-/

namespace Reformat

/-- How a tool ends whenever it is called, or whenever its first argument is a certain one. -/
structure Recording where
  program : Text
  command : Option Text
  /-- Whether it reads its input before it answers. -/
  takesInput : Bool
  /-- How many of its last arguments name files that it reads. -/
  files : Nat
  completion : Completion
deriving Repr

/-- A call of a recorded tool, in a directory that is known to be there. -/
structure Call where
  invocation : Invocation
  location : Location
deriving Repr

namespace Recording

/-- Whether a recording answers an invocation. -/
def answers (recording : Recording) (invocation : Invocation) : Bool :=
  recording.program == invocation.program &&
    (recording.command.isNone || recording.command == invocation.arguments.head?)

/-- What is left of an end when the system tells it: an exit code has eight bits. -/
def told : Termination → Termination
  | .exited code => .exited (code % 256)
  | termination => termination

/-- The answer of a tool: nothing is printed where none was recorded. -/
def play (recordings : List Recording) (invocation : Invocation) : Completion :=
  match recordings.find? (·.answers invocation) with
  | some { completion := completion, .. } =>
      { completion with termination := told completion.termination }
  | none => ⟨.exited 0, [], []⟩

theorem told_exited (code : Int) :
    ∃ byte : Nat, byte < 256 ∧ told (.exited code) = .exited (byte : Int) := by
  refine ⟨(code % 256).toNat, ?_, ?_⟩
  · omega
  · have bounded : ((code % 256).toNat : Int) = code % 256 := by omega
    simp only [told, bounded]

end Recording

/-- The directory of a call as a path from another one. Line ends behind it are lost. -/
def Call.path (base : Location) (call : Call) : Path :=
  let path := ['.', '/'] ++ ['/'].intercalate (call.location.drop base.length)
  (path.reverse.dropWhile (· = '\n')).reverse

end Reformat
