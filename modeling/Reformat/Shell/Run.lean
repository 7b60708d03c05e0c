import Reformat.Shell.Run.Named
import Reformat.Shell.Run.Start
import Reformat.Tool.Process

/-!
Running commands. A command is told how those inside it are run, so all of this is said without
recursion but for the one that ties it together.
-/

namespace Reformat.Shell.Run

open Effect

/-! ## Simple commands -/

/-- What stands in front of a command that is shown. -/
def prompt (run : Runner) : Effect Text := do
  let text := (← valueOf "PS4".toList).getD []
  match (Source.ofText text 1 (← get).documentNumber).quotedParts with
  | .error _ => return text
  | .ok parts =>
      let flags := (← scope).flags
      changeScope fun scope => { scope with flags := flags.filter (· ≠ .trace) }
      let shown ← Expansion.single (capture run) .nowhere parts
      changeScope fun scope => { scope with flags := flags }
      return shown

/-- Writes a command as it is about to run. -/
def trace (run : Runner) (before : List (Nat × Handle)) (assigned : List (Text × Text))
    (fields : List Text) : Effect Unit := do
  let prompt ← prompt run
  let after := (← scope).handles
  changeScope fun scope => { scope with handles := before }
  let shown := assigned.map (fun (name, value) => name ++ '=' :: value) ++ fields
  sayError (prompt ++ [' '].intercalate shown ++ ['\n'])
  changeScope fun scope => { scope with handles := after }

/-- Assigns in order, and gives what was assigned. A command has its variables for itself alone where
it has a frame. -/
def assignAll (run : Runner) (framed exported : Bool) :
    List (Text × Word) → Effect (List (Text × Text))
  | [] => return []
  | (name, word) :: rest => do
      let value ← Expansion.single (capture run) .value word
      if framed then
        Frame.keep name
      assign name value
      if exported || (← has .exportAll) then
        match ← entryOf name with
        | some entry => replaceVariable name (some { entry with exported := true })
        | none => pure ()
      return (name, value) :: (← assignAll run framed exported rest)

/-- The command that fields name, behind `command` where that stands in front of it, but no
function. -/
def commandOf (scope : Scope) : List Text → Option Text
  | [] => none
  | name :: arguments =>
      if (scope.functions.lookup name).isSome then
        none
      else if name == "command".toList then
        (commanded arguments).map Prod.fst
      else
        some name

/-- The commands that take assignments as arguments, which are not taken apart. -/
def declaringNames : List Text :=
  ["export", "readonly", "local"].map String.toList

/-- The fields of the words of a command. What the first ones name tells what becomes of the
others. -/
def fieldsOf (run : Runner) (before : List Text) : List Word → Effect (List Text)
  | [] => return before
  | word :: rest => do
      let isDeclared := (commandOf (← scope) before).any declaringNames.contains
      let fields ←
        if isDeclared && (assignment? word).isSome then
          pure [← Expansion.single (capture run) .assignment word]
        else
          Expansion.fields (capture run) word
      fieldsOf run (before ++ fields) rest

def simple (run : Runner) (start : Starter) (tested : Bool) (line : Nat)
    (assignments : List (Text × Word)) (words : List Word) (redirections : List Redirection) :
    Effect Unit := do
  changeScope fun scope => { scope with line := line }
  modify fun state => { state with outputStatus := none }
  let fields ← fieldsOf run [] words
  let outer ← scope
  let name := fields.headD []
  let isSpecial := specialNames.contains name && (outer.functions.lookup name).isNone
  let isFramed := !(fields.isEmpty || isSpecial)
  let replaces := commandOf outer fields == some "exec".toList
  let action : Effect Unit := do
    let isExported := isFramed || (replaces && 1 < fields.length)
    let assigned ← assignAll run isFramed isExported assignments
    if ← has .trace then
      trace run outer.handles assigned fields
    match fields with
    | [] => setStatus ((← get).outputStatus.getD 0)
    | name :: arguments => setStatus (← dispatch run start tested name arguments)
  let redirected := underRedirections run replaces true redirections action
  let isDone ← if isFramed then Frame.inside redirected else redirected
  if !isDone && isSpecial then
    throw .failed

/-! ## Compound commands -/

/-- How a part of a loop ends: the loop goes on behind it, begins its next round, or ends. -/
inductive Outcome where
  | finished
  | again
  | left
deriving DecidableEq, Repr

/-- Runs a part of a loop. -/
def runPart (run : Runner) (tested : Bool) (part : Command) : Effect Outcome := do
  changeScope fun scope => { scope with loops := scope.loops + 1 }
  let interrupt ← ending? (run tested part)
  changeScope fun scope => { scope with loops := scope.loops - 1 }
  match interrupt with
  | none => return .finished
  | some (.leave loops again) =>
      if 1 < loops then
        throw (.leave (loops - 1) again)
      return if again then .again else .left
  | some interrupt => throw interrupt

/-- More often than any loop repeats its body that ends. -/
def rounds : Nat :=
  1000000000000

/-- Runs the test of a loop, and leaves the status of the last round where it returns without one. -/
def runTest (run : Runner) (test : Command) (last : Nat) : Effect Outcome :=
  tryCatch (runPart run true test) fun interrupt => do
    if interrupt = .returned false then
      setStatus last
    throw interrupt

/-- Repeats a body while a test says so, and leaves the status of the last round. -/
def loop (run : Runner) (tested onFailure : Bool) (test body : Command) : Nat → Nat → Effect Unit
  | 0, last => setStatus last
  | count + 1, last => do
      match ← runTest run test last with
      | .left => setStatus last
      | .again => loop run tested onFailure test body count last
      | .finished =>
          if ((← status) != 0) == onFailure then
            if (← runPart run tested body) != .left then
              loop run tested onFailure test body count (← status)
          else
            setStatus last

/-- Runs a body for each field, and leaves the status of the last round. -/
def each (run : Runner) (tested : Bool) (name : Text) (body : Command) : List Text → Effect Unit
  | [] => return ()
  | field :: rest => do
      assign name field
      if (← runPart run tested body) != .left then
        each run tested name body rest

/-- Runs the first branch that has a pattern for the subject. -/
def choose (run : Runner) (tested : Bool) (subject : Text) :
    List (List Word × Command) → Effect Unit
  | [] => setStatus 0
  | (patterns, body) :: rest => do
      let holds ← patterns.anyM fun word => do
        return (← Expansion.pattern (capture run) word).accepts subject
      if holds then
        run tested body
      else
        choose run tested subject rest

/-- Ends the shell if it is told to end where a command fails. -/
def check (tested : Bool) : Effect Unit := do
  if !tested && (← status) != 0 && (← has .exitOnFailure) then
    throw .exit

/-- A command that has a process for itself needs no other one where it is a subshell. -/
def withoutSubshell : Command → Command
  | .subshell _ body => body
  | .redirected line (.subshell _ body) redirections => .redirected line body redirections
  | command => command

/-- Starts a command beside the shell. It has run to its end when the shell goes on. -/
def startJob (run : Runner) (body : Command) : Effect Unit := do
  let process := (← get).processes + 1
  let termination ← separate run (withHandle 0 .null) (run false (withoutSubshell body))
  modify fun state => { state with jobs := (process, termination) :: state.jobs }
  changeScope fun scope => { scope with job := some process, status := 0 }

/-- Runs one command. -/
def step (run : Runner) (start : Starter) (tested : Bool) : Command → Effect Unit
  | .nothing => setStatus 0
  | .simple line assignments words redirections => do
      simple run start tested line assignments words redirections
      receiveAll run
      check tested
  | .pipeline negated [stage] => do
      if negated then
        amid (run true stage)
      else
        run tested stage
      if negated then
        setStatus (if (← status) = 0 then 1 else 0)
  | .pipeline negated stages => do
      setStatus (← pipeline run (tested || negated) none stages)
      receiveAll run
      if negated then
        setStatus (if (← status) = 0 then 1 else 0)
      else
        check tested
  | .either onFailure first second => do
      amid (run true first)
      if ((← status) != 0) == onFailure then
        run tested second
  | .sequence first second => do
      amid (run tested first)
      run tested second
  | .background body => startJob run body
  | .subshell line body => do
      changeScope fun scope => { scope with line := line }
      setStatus (← isolate run id (run tested body))
      receiveAll run
      check tested
  | .conditional test positive negative => do
      amid (run true test)
      if (← status) = 0 then
        run tested positive
      else
        run tested negative
  | .loop onFailure test body => amid (loop run tested onFailure test body rounds 0)
  | .each line name words body => do
      changeScope fun scope => { scope with line := line }
      let fields ←
        match words with
        | some words => pure (← words.mapM (Expansion.fields (capture run))).flatten
        | none => pure (← scope).parameters
      if fields.isEmpty then
        setStatus 0
      amid (each run tested name body fields)
  | .choice line subject branches => do
      changeScope fun scope => { scope with line := line }
      let subject ← Expansion.single (capture run) .word subject
      choose run tested subject branches
  | .define name body => do
      changeScope fun scope =>
        let others := scope.functions.filter fun (other, _) => other ≠ name
        { scope with functions := (name, body) :: others, status := 0 }
  | .redirected line body redirections => do
      changeScope fun scope => { scope with line := line }
      let putsAside := !(body matches .subshell _ _)
      if !(← amid (underRedirections run false putsAside redirections (run tested body))) then
        check tested

/-! ## Shells -/

/-- Runs a command, in which others may lie as deep as there is fuel. -/
def execute : Nat → Runner
  | 0 => fun _ _ => throw .exit
  | fuel + 1 => fun tested command => do
      if !(← has .parseOnly) then
        receiveAll (execute fuel)
        step (execute fuel) (nested (execute fuel)) tested command

/-- More than commands can lie in each other. -/
def depth : Nat :=
  100000

/-- The directories that are searched for a program that is not named by its path. -/
def initialDirectories : Text :=
  "/usr/local/bin:/usr/bin:/bin".toList

/-- What a program has done by its end. -/
structure Ending where
  completion : Completion
  tree : Tree
  calls : List Call

/-- Runs a program with arguments on an input, in a directory of a tree, beside recorded tools. Names
and arguments are the octets that they have for the programs. -/
def program (recordings : List Recording) (name : Text) (arguments : List Text) (input : Bytes)
    (tree : Tree) (directory : Location) : Except SystemError Ending := do
  let octets (text : Text) : Text := Utf8.octets (Utf8.encode text)
  let handles : List (Nat × Handle) :=
    [(0, .stream 0 .reading), (1, .stream 1 .writing), (2, .stream 2 .writing)]
  let bindings : List (Text × Variable) :=
    [("PATH".toList, ⟨some initialDirectories, true, false⟩)]
  let name := octets name
  let state : State := {
    scope := firstScope name [1] bindings [] handles (directory.map octets)
    streams := #[.ofText (Utf8.octets input), .pipe (.empty none), .pipe (.empty none)]
    tree := Executable.furnish (tree.rename octets)
    recordings := recordings
    calls := []
    jobs := []
    processes := 1
    documents := []
    documentNumber := 0
    modes := []
    signals := []
    endless := 1048576
    outputStatus := none }
  let run := execute depth
  let paths :=
    if name.contains '/' then [name]
    else if name.isEmpty then []
    else Executable.candidates initialDirectories name
  let task ← Executable.firstTask state.system name (arguments.map octets) paths
  let (termination, final) := (launch (nested run) task).run state
  let written (number : Nat) : Bytes :=
    ((final.streams[number]?).map fun stream => Utf8.ofOctets stream.text).getD []
  let after := final.tree.rename fun name => Utf8.decodeLossy (Utf8.ofOctets name)
  return {
    completion := ⟨termination.toOption.getD .unknown, written 1, written 2⟩
    tree := { after with workingDirectory := tree.workingDirectory }
    calls := final.calls }

end Reformat.Shell.Run
