import Reformat.Shell.Effect

/-!
What a command changes for itself alone: the variables and flags that it keeps are restored at its
end.
-/

namespace Reformat.Shell.Frame

open Effect

/-- Changes what the innermost command is to restore. -/
def change (change : Frame → Frame) : Effect Unit :=
  changeScope fun scope =>
    match scope.frames with
    | [] => scope
    | frame :: outer => { scope with frames := change frame :: outer }

/-- Keeps a variable, unless it is kept already. -/
def keep (name : Text) : Effect Unit := do
  let entry ← entryOf name
  change fun frame =>
    if (frame.bindings.lookup name).isSome then frame
    else { frame with bindings := (name, entry) :: frame.bindings }

/-- Keeps the flags, unless they are kept already. -/
def keepFlags : Effect Unit := do
  let flags := (← scope).flags
  change fun frame => { frame with flags := some (frame.flags.getD flags) }

def restore (frame : Frame) : Effect Unit := do
  frame.bindings.forM fun (name, entry) => do
    heed name (entry.bind (·.value))
    replaceVariable name entry
  changeScope fun scope => { scope with flags := frame.flags.getD scope.flags }

/-- Restores what has been kept since there were so many frames. -/
def unwind (depth : Nat) : Effect Unit := do
  let frames := (← scope).frames
  let count := frames.length - depth
  (frames.take count).forM restore
  changeScope fun scope => { scope with frames := frames.drop count }

/-- Does something with a frame of its own. What ends the shell leaves all as it is for the trap that
is still to run. -/
def inside {α : Type} (action : Effect α) : Effect α := do
  let depth := (← scope).frames.length
  changeScope fun scope => { scope with frames := ⟨[], none⟩ :: scope.frames }
  let value ←
    tryCatch action fun interrupt => do
      if interrupt.isLocal then
        unwind depth
      throw interrupt
  unwind depth
  return value

end Reformat.Shell.Frame
