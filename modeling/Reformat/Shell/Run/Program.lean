import Reformat.Shell.Builtin
import Reformat.Shell.Run.Subshell
import Reformat.Shell.Utility.Content
import Reformat.Shell.Utility.File

/-!
Programs that run beside a shell: recorded tools, utilities, and shells again.
-/

namespace Reformat.Shell.Run

open Effect

def exitedWith (status : Nat) : Termination :=
  .exited ((status : Nat) : Int)

/-- Runs what a program does by itself. One whose output nobody reads ends by that, and one whose output
cannot be written says so. -/
def underProgram (task : Task) (action : Effect Termination) : Effect Termination := do
  let outer ← scope
  changeScope fun scope => { scope with loss := none, isProgram := true }
  let termination ←
    tryCatch action fun interrupt => do
      match interrupt with
      | .stopped signal => return .signaled (signal : Int)
      | interrupt => throw interrupt
  let loss := (← scope).loss
  changeScope fun scope => { scope with loss := outer.loss, isProgram := outer.isProgram }
  match loss with
  | none => return termination
  | some refusal =>
      let _ ← Utility.tell task.name ("write error: ".toList ++ refusal.message)
      return exitedWith 1

/-- Lets a tool answer as it was recorded, and keeps the call. -/
def playTool (task : Task) : Effect Termination := do
  let state ← get
  let own := state.recordings.filter (·.program == task.program)
  let readable (text : Text) : Text := Utf8.decodeLossy (Utf8.ofOctets text)
  let content (path : Text) : Bytes := Utf8.ofOctets ((textOf state path).toOption.getD [])
  let takesInput := own.any Recording.takesInput
  let input ← if takesInput then readAll 0 else pure []
  let count := task.arguments.length - (own.map Recording.files).foldl max 0
  let invocation : Invocation := {
    program := task.program
    arguments := (task.arguments.take count).map readable
    snapshots := (task.arguments.drop count).map content
    input := if takesInput then some (Utf8.ofOctets input) else none
    directory := ['.'] }
  let call : Call := ⟨invocation, state.scope.directory.map readable⟩
  modify fun state => { state with calls := state.calls ++ [call] }
  let completion := Recording.play state.recordings invocation
  sayError (Utf8.octets completion.diagnostics)
  say (Utf8.octets completion.output)
  return completion.termination

/-- Starts a shell under a name with arguments. -/
abbrev Starter := Text → List Text → Effect Termination

/-- The utility of a name, if there is one. -/
def utility? (name : Text) : Option Utility :=
  match String.ofList name with
  | "cat" => some Utility.cat
  | "chmod" => some Utility.chmod
  | "echo" => some Utility.echo
  | "false" => some fun _ _ => return 1
  | "head" => some Utility.head
  | "mkdir" => some Utility.mkdir
  | "printf" => some Utility.printf
  | "touch" => some Utility.touch
  | "tr" => some Utility.tr
  | "true" => some fun _ _ => return 0
  | "wc" => some Utility.wc
  | "yes" => some Utility.yes
  | _ => none

/-- Runs a program beside the shell and waits for its end. -/
def launch (start : Starter) (task : Task) : Effect Termination := do
  if ["sh", "dash"].contains (String.ofList task.program) then
    start task.name task.arguments
  else if (← get).recordings.any (·.program == task.program) then
    underProgram task (playTool task)
  else
    match utility? task.program with
    | some utility =>
        underProgram task do
          return exitedWith (← utility task.name task.arguments)
    | none => return exitedWith 127

end Reformat.Shell.Run
