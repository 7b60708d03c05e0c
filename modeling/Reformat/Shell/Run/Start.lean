import Reformat.Shell.Run.Program

/-!
How a shell is started: what its arguments ask it to run, and the scope in which it begins.
-/

namespace Reformat.Shell.Run

open Effect

/-- The flags of arguments, whether a script or the input is asked for, and the other arguments. -/
def flagsOf : Nat → Bool → Bool → List Text → Effect (Bool × Bool × List Text)
  | 0, script, input, rest => return (script, input, rest)
  | _ + 1, script, input, [] => return (script, input, [])
  | fuel + 1, script, input, argument :: rest => do
      match argument with
      | ['-', '-'] => return (script, input, rest)
      | ['-'] => return (script, input, rest)
      | sign :: letter :: letters =>
          if sign = '-' ∨ sign = '+' then
            let letters := letter :: letters
            let plain := letters.filter fun c => c ≠ 'c' && c ≠ 'l'
            let rest ← Builtin.changeLetters (sign = '-') rest plain
            let script := script || (sign = '-' && letters.contains 'c')
            let input := input || (sign = '-' && letters.contains 's')
            flagsOf fuel script input rest
          else
            return (script, input, argument :: rest)
      | _ => return (script, input, argument :: rest)

/-- Runs what the arguments of a shell ask for. -/
def runArguments (run : Runner) (arguments : List Text) : Effect Unit := do
  let (script, input, rest) ← flagsOf (arguments.length + 1) false false arguments
  let withParameters (name : Option Text) (parameters : List Text) : Effect Unit :=
    changeScope fun scope => { scope with name := name.getD scope.name, parameters := parameters }
  let runInput : Effect Unit := do
    Builtin.changeFlag true (.idle 's')
    runFile run (← readAll 0)
  match script, input, rest with
  | true, _, [] => fail "-c requires an argument".toList
  | true, _, text :: rest =>
      withParameters rest.head? rest.tail
      runScript run false text
      if input then
        runInput
  | false, true, rest =>
      withParameters none rest
      runInput
  | false, false, [] => runInput
  | false, false, path :: rest =>
      match ← Redirect.script path with
      | .error cause =>
          fail ("cannot open ".toList ++ path ++ ": ".toList ++ Redirect.refusal false cause)
      | .ok text =>
          withParameters (some path) rest
          runFile run text

/-- The scope in which a shell begins under a name, inside of others. -/
def firstScope (name : Text) (shells : List Nat) (bindings : List (Text × Variable))
    (traps : List (Nat × Text)) (handles : List (Nat × Handle)) (directory : Location) : Scope :=
  let first : List (Text × Option Text) := [("IFS", none), ("MAIL", none), ("MAILPATH", none),
    ("PATH", some Executable.standardDirectories), ("PS1", some "# ".toList),
    ("PS2", some "> ".toList), ("PS4", some "+ ".toList), ("OPTIND", none)].map
      fun (name, value) => (name.toList, value)
  let own : List (Text × Text) := [("IFS", " \t\n".toList), ("OPTIND", ['1']),
    ("PPID", Text.Decimal.write (shells[1]?.getD 0))].map fun (name, value) => (name.toList, value)
  let set (table : List (Text × Variable)) (entry : Text × Text) : List (Text × Variable) :=
    let isExported := (table.lookup entry.1).any Variable.exported
    Table.put entry.1 ⟨some entry.2, isExported, false⟩ table
  let known := first.map fun (name, value) => (name, ⟨value, false, false⟩)
  let given := bindings.foldl (fun table (name, entry) => Table.put name entry table) known
  let place : Variable := ⟨some (Builtin.pathOf directory), true, false⟩
  { name := name
    parameters := []
    bindings := Table.put "PWD".toList place (own.foldl set given)
    functions := []
    traps := traps
    handles := handles
    flags := []
    directory := directory
    status := 0
    line := 0
    job := none
    process := shells.headD 0
    shells := shells
    trapStatus := none
    isFinal := false
    loops := 0
    calls := 0
    frames := []
    options := .first
    commandName := none
    loss := none
    isProgram := false }

/-- Runs a shell inside a shell. It takes over the process of the one around it where that has nothing
more to do. -/
def nested (run : Runner) : Starter := fun name arguments => do
  let outer ← get
  let process := outer.processes + 1
  let inherited :=
    if Scope.isReady outer.scope then { subscope process outer.scope with shells := outer.scope.shells }
    else subscope process outer.scope
  let scope := firstScope name inherited.shells inherited.bindings inherited.traps
    inherited.handles inherited.directory
  let termination ← separate run (fun _ => scope) (runArguments run arguments)
  modify fun state => { state with outputStatus := outer.outputStatus }
  return termination

end Reformat.Shell.Run
