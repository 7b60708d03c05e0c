import Reformat.Shell.Expansion
import Reformat.Shell.Parser
import Reformat.Shell.Redirect

/-!
Scripts, and the shells that run them: traps, and subshells for the outputs of scripts and the stages of
pipelines. How a command is run is given, so none of this is recursive in commands.
-/

namespace Reformat.Shell.Run

open Effect

/-- How a command is run. The flag tells whether something depends on its status, so that the shell
does not end where it fails. -/
abbrev Runner := Bool → Command → Effect Unit

/-! ## Scripts -/

/-- Runs the lines of a script, and tells whether there are any. Nothing of a line runs before it is
read to its end. -/
def runLines (run : Runner) (tested : Bool) : Nat → Bool → Source → Effect Bool
  | 0, isAny, _ => return isAny
  | fuel + 1, isAny, source => do
      let source := { source with number := (← get).documentNumber, documents := [] }
      match source.nextLine with
      | .error misreading =>
          changeScope fun scope => { scope with line := misreading.line }
          fail ("Syntax error: ".toList ++ misreading.message)
      | .ok (line, after) =>
          modify fun state =>
            { state with
              documents := after.documents ++ state.documents, documentNumber := after.number }
          match line with
          | .finish => return isAny
          | .blank => runLines run tested fuel isAny after
          | .commands command =>
              run tested command
              runLines run tested fuel true after

def runScript (run : Runner) (tested : Bool) (script : Text) : Effect Unit := do
  let isAny ← runLines run tested (script.length + 1) false (Source.ofText script 1 0)
  if !isAny then
    setStatus 0

/-- Runs the script in a file. -/
def runFile (run : Runner) (script : Text) : Effect Unit :=
  runScript run false (script.filter (· ≠ '\x00'))

/-! ## Traps -/

/-- Runs the action of a trap, behind which the status is what it was; inside the action of another
trap it is what it was in front of that one. -/
def runTrap (run : Runner) (action : Text) : Effect Unit := do
  let outer := (← scope).trapStatus
  let before := outer.getD (← scope).status
  changeScope fun scope => { scope with trapStatus := some before }
  let restore : Effect Unit := changeScope fun scope => { scope with trapStatus := outer }
  tryCatch (runScript run false action) fun interrupt => do
    if interrupt.isLocal then
      restore
    throw interrupt
  restore
  setStatus before

/-- Acts upon a signal. -/
def receive (run : Runner) (signal : Nat) : Effect Unit := do
  let scope ← scope
  if scope.endsBy signal then
    throw (.killed signal)
  match scope.traps.lookup signal with
  | some action =>
      if !action.isEmpty then
        runTrap run action
  | none => return ()

/-- Whether a signal has come to the shell at hand. -/
def Notice.isDue (state : State) (notice : Notice) : Bool :=
  state.scope.shells.head? == some notice.process

/-- Acts upon the signals that have come, upon each one once and in the order of their numbers. -/
def receiveAll (run : Runner) : Effect Unit := do
  let state ← get
  let (due, others) := state.signals.partition (Notice.isDue state)
  set { state with signals := others }
  (due.map Notice.signal).eraseDups.mergeSort.forM (receive run)

/-- Ends the shell if a signal has come that it does not expect. -/
def perish : Effect Unit := do
  let state ← get
  let isFatal (notice : Notice) : Bool :=
    Notice.isDue state notice && state.scope.endsBy notice.signal
  match state.signals.find? isFatal with
  | some notice => throw (.killed notice.signal)
  | none => return ()

/-! ## Shells -/

/-- The interrupt that ends an action, if one does. -/
def ending? (action : Effect Unit) : Effect (Option Interrupt) :=
  tryCatch
    (do
      action
      return none)
    fun interrupt => return some interrupt

/-- Runs an action as all that a shell does: behind it comes the trap for the end. -/
def conclude (run : Runner) (action : Effect Unit) : Effect Termination := do
  let first ← ending? action
  let final ←
    match first, (← scope).traps.lookup 0 with
    | some (.killed _), _ => pure first
    | _, some trap =>
        let before ← status
        changeScope fun scope =>
          { scope with
            traps := scope.traps.filter fun (signal, _) => signal ≠ 0
            loops := 0
            trapStatus := none }
        let last ← ending? (runTrap run trap)
        if last matches some (.returned _) then
          setStatus before
        pure last
    | _, none => pure first
  match final with
  | some (.killed signal) => return .signaled (signal : Int)
  | _ => return .exited (((← status) % 256 : Nat) : Int)

def statusOf : Termination → Nat
  | .exited code => code.toNat
  | .signaled signal => 128 + signal.toNat
  | .unknown => 0

/-- Says what has ended a program, if it was a signal. -/
def announce : Termination → Effect Unit
  | .signaled signal => sayError (Signal.description signal.toNat)
  | _ => return ()

/-- Runs an action behind which there is more to be done. -/
def amid {α : Type} (action : Effect α) : Effect α := do
  let isFinal := (← scope).isFinal
  changeScope fun scope => { scope with isFinal := false }
  let value ← action
  changeScope fun scope => { scope with isFinal := isFinal }
  return value

/-- Whether a program that is run takes over the process of the shell, which has nothing more to do. -/
def Scope.isReady (scope : Scope) : Bool :=
  scope.isFinal && scope.traps.all fun (_, action) => action.isEmpty

/-- What a subshell, which is a process of its own, keeps of a scope: traps only where they ignore a
signal. -/
def subscope (process : Nat) (scope : Scope) : Scope :=
  { scope with
    shells := process :: scope.shells
    isFinal := true
    traps := scope.traps.filter fun (signal, action) => signal ≠ 0 && action.isEmpty }

/-- Runs an action in a subshell, and gives its end. -/
def separate (run : Runner) (change : Scope → Scope) (action : Effect Unit) :
    Effect Termination := do
  let outer ← get
  let process := outer.processes + 1
  set { outer with
    scope := change (subscope process outer.scope), jobs := [], processes := process }
  let termination ← conclude run action
  modify fun state => { state with scope := outer.scope, jobs := outer.jobs }
  return termination

/-- Runs an action in a subshell that the shell waits for, and gives its status. -/
def isolate (run : Runner) (change : Scope → Scope) (action : Effect Unit) : Effect Nat := do
  let termination ← separate run change action
  perish
  announce termination
  return statusOf termination

def withHandle (descriptor : Nat) (handle : Handle) (scope : Scope) : Scope :=
  let others := scope.handles.filter fun entry => entry.1 ≠ descriptor
  { scope with handles := (descriptor, handle) :: others }

/-- The output of a command without the line ends behind it. -/
def capture (run : Runner) : Capture := fun body => do
  match body with
  | .nothing => return []
  | _ =>
      let number ← openStream (.pipe (.empty none))
      let status ← isolate run (withHandle 1 (.stream number .writing)) (run false body)
      modify fun state => { state with outputStatus := some status }
      let output := (((← get).streams[number]?).map Stream.text).getD []
      setStream number (.pipe (.empty none))
      return ((output.filter (· ≠ '\x00')).reverse.dropWhile (· = '\n')).reverse

/-- Runs the stages of a pipeline, and gives the status of the last one. They run one behind the other: a
stage that does not end by itself does so where its pipe takes no more. -/
def pipeline (run : Runner) (tested : Bool) : Option Nat → List Command → Effect Nat
  | _, [] => return 0
  | input, stage :: rest => do
      let reading (scope : Scope) : Scope :=
        match input with
        | some number => withHandle 0 (.stream number .reading) scope
        | none => scope
      match rest with
      | [] => isolate run reading (run tested stage)
      | _ :: _ =>
          let number ← openStream (.pipe (.empty (some (← get).endless)))
          let writing (scope : Scope) : Scope :=
            withHandle 1 (.stream number .writing) (reading scope)
          let _ ← isolate run writing (run tested stage)
          pipeline run tested (some number) rest

/-! ## Redirections -/

/-- Carries out redirections, of which all targets are expanded first. A document is expanded where its
turn comes, and an error in it is one of the redirection. -/
def redirect (run : Runner) (putsAside : Bool) (redirections : List Redirection) :
    Effect Bool := do
  let targets ← redirections.mapM fun redirection => do
    match redirection with
    | .file descriptor direction target =>
        let text ← Expansion.single (capture run) .word target
        return (descriptor, ← Redirect.targetOf direction text)
    | .document descriptor number => return (descriptor, Redirect.Target.document number)
  let read (number : Nat) : Effect Text := do
    let body := ((← get).documents.lookup number).getD []
    Expansion.single (capture run) .nowhere body
  tryCatch (Redirect.applyAll read (fun _ => putsAside) targets) fun interrupt => do
    if interrupt = .failed then
      return false
    throw interrupt

/-- Does something behind redirections, or leaves the status 2 where they cannot be done. They are
taken back at its end unless they are to last. -/
def underRedirections (run : Runner) (lasting putsAside : Bool)
    (redirections : List Redirection) (action : Effect Unit) : Effect Bool := do
  let before := (← scope).handles
  try
    if ← redirect run putsAside redirections then
      action
      return true
    setStatus 2
    return false
  finally
    if !lasting then
      Redirect.restore redirections before

end Reformat.Shell.Run
