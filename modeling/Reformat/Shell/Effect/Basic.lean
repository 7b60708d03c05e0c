import Reformat.Shell.Signal
import Reformat.Shell.State

/-!
What commands do to the state of a shell: the scope that they change, and the interrupts that end them
early.
-/

namespace Reformat.Shell

/-- What leaves the commands at hand. -/
inductive Interrupt where
  | exit
  /-- An error, which ends the shell unless it was in a command that it can do without. -/
  | failed
  | killed (signal : Nat)
  /-- Leaves a number of loops, the last of which goes on where `again` is set. -/
  | leave (loops : Nat) (again : Bool)
  /-- Leaves a function or a script, with a status that is stated or with the one at hand. -/
  | returned (stated : Bool)
  /-- A signal ends the program at hand, but not the shell around it. -/
  | stopped (signal : Nat)
deriving DecidableEq, Repr

/-- Whether the shell goes on behind an interrupt, in a loop or behind a function. -/
def Interrupt.isLocal : Interrupt → Bool
  | leave _ _ => true
  | returned _ => true
  | _ => false

abbrev Effect := ExceptT Interrupt (StateM State)

/-- Whether a signal ends a shell in a scope. -/
def Scope.endsBy (scope : Scope) (signal : Nat) : Bool :=
  !Signal.isHarmless signal &&
    (Signal.isCertain signal || (scope.traps.lookup signal).isNone)

namespace Effect

def scope : Effect Scope := do
  return (← get).scope

def changeScope (change : Scope → Scope) : Effect Unit :=
  modify fun state => { state with scope := change state.scope }

def setStatus (status : Nat) : Effect Unit :=
  changeScope fun scope => { scope with status := status }

def status : Effect Nat := do
  return (← scope).status

def has (flag : Flag) : Effect Bool := do
  return (← scope).flags.contains flag

/-- Sends a signal to a process. -/
def post (process signal : Nat) : Effect Unit :=
  modify fun state => { state with signals := state.signals ++ [⟨process, signal⟩] }

end Effect

end Reformat.Shell
