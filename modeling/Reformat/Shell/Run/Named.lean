import Reformat.Shell.Run.Program

/-!
Commands by their names: functions, the commands of the shell that run others, and programs.
-/

namespace Reformat.Shell.Run

open Effect

/-! ## Programs -/

/-- The paths under which a program is looked for. -/
def searchPaths (name : Text) : Effect (List Text) := do
  return Executable.candidates ((← valueOf "PATH".toList).getD []) name

/-- What is started to run the first of some paths that can be run. -/
def taskOf (name : Text) (arguments paths : List Text) : Effect (Except SystemError Task) := do
  return Executable.firstTask (← get).system name arguments paths

/-- Why a program cannot be run, in the words of the shell. -/
def refusal : SystemError → Text
  | .notFound => "not found".toList
  | .notADirectory => "not found".toList
  | cause => Utility.reason cause

/-- The status that tells why a program cannot be run. -/
def refusalStatus : SystemError → Nat
  | .notFound => 127
  | .notADirectory => 127
  | .nameTooLong => 127
  | _ => 126

/-- Does something with the variables alone that programs are given. -/
def equipped {α : Type} (action : Effect α) : Effect α := do
  let outer := (← scope).bindings
  let given := outer.filter fun (_, entry) => entry.exported && entry.value.isSome
  changeScope fun scope => { scope with bindings := given }
  let value ← action
  changeScope fun scope => { scope with bindings := outer }
  return value

/-- Runs a program in front of the shell, and gives its status. -/
def runProgram (start : Starter) (name : Text) (arguments : List Text) : Effect Nat := do
  let isPath := name.contains '/'
  let paths ← if isPath then pure [name] else searchPaths name
  match ← taskOf name arguments paths with
  | .ok task =>
      let isReady := Scope.isReady (← scope)
      match isReady, ← equipped (launch start task) with
      | true, .signaled signal => throw (.killed signal.toNat)
      | _, termination =>
          announce termination
          return statusOf termination
  | .error cause =>
      complain (name ++ ": ".toList ++ refusal cause)
      return if isPath then refusalStatus cause else 127

/-! ## Commands of the shell -/

/-- How many functions may call each other. -/
def callDepth : Nat :=
  1000

/-- Runs a function with parameters of its own. -/
def call (run : Runner) (tested : Bool) (body : Command) (arguments : List Text) : Effect Nat := do
  let outer ← scope
  if callDepth ≤ outer.calls then
    fail "Maximum function recursion depth (1000) reached".toList
  changeScope fun scope =>
    { scope with
      parameters := arguments, options := .first, loops := 0, calls := scope.calls + 1 }
  try
    match ← ending? (amid (run tested body)) with
    | none => pure ()
    | some (.returned _) => pure ()
    | some interrupt => throw interrupt
    status
  finally
    changeScope fun scope =>
      { scope with
        parameters := outer.parameters
        options := outer.options
        loops := outer.loops
        calls := outer.calls }

/-- Gives the status of the last of some commands that were started beside the shell. -/
def wait : Builtin := fun arguments => do
  let given ← Builtin.given [] [] arguments
  let statuses ← given.operands.mapM fun operand => do
    let process ← number operand
    return (((← get).jobs.lookup process).map statusOf).getD 127
  return statuses.getLastD 0

/-- Runs the script in a file. -/
def source (run : Runner) : Builtin := fun arguments => do
  match arguments with
  | [] => return 0
  | name :: _ =>
      let tree ← tree
      let isFile (path : Text) : Bool := (tree.read path).toOption.isSome
      let paths ← searchPaths name
      let found := if name.contains '/' then some name else paths.find? isFile
      let path ←
        match found with
        | some path => pure path
        | none => fail (name ++ ": not found".toList)
      match ← Redirect.script path with
      | .error cause =>
          fail ("cannot open ".toList ++ path ++ ": ".toList ++ Redirect.refusal false cause)
      | .ok text =>
          match ← ending? (about path (amid (runFile run text))) with
          | none => pure ()
          | some (.returned _) => pure ()
          | some interrupt => throw interrupt
          status

/-- Puts a program in the place of the shell. -/
def replace (start : Starter) : Builtin := fun arguments => do
  match arguments with
  | [] => return 0
  | name :: arguments =>
      let paths ← if name.contains '/' then pure [name] else searchPaths name
      match ← taskOf name arguments paths with
      | .ok task =>
          changeScope fun scope => { scope with traps := (subscope 0 scope).traps }
          match ← equipped (launch start task) with
          | .signaled signal => throw (.killed signal.toNat)
          | termination => Effect.exit (statusOf termination)
      | .error cause =>
          complain (name ++ ": ".toList ++ refusal cause)
          Effect.exit (refusalStatus cause)

/-- The command of a name, among all those of the shell but `command`. -/
def find? (run : Runner) (start : Starter) (tested : Bool) (name : Text) : Option Builtin :=
  match String.ofList name with
  | "." => some (source run)
  | "eval" => some fun arguments => do
      amid (runScript run tested ([' '].intercalate arguments))
      status
  | "exec" => some (replace start)
  | "wait" => some wait
  | _ => Builtin.find? name

/-- Whether a name stands for something that the shell runs by itself. -/
def isOwn (scope : Scope) (name : Text) : Bool :=
  let others : List Text := [".", "command", "eval", "exec", "wait"].map String.toList
  reservedWords.contains name || (scope.functions.lookup name).isSome || others.contains name ||
    (Builtin.find? name).isSome

/-- Shows how a command would be called by its name. -/
def showCommand : Builtin := fun arguments => do
  let given ← Builtin.given ['p', 'v'] [] arguments
  match given.operands with
  | [] => return 0
  | name :: _ =>
      let system := (← get).system
      let found (path : Text) : Except SystemError Text := do
        let _ ← Executable.find system path
        return path
      let paths ← if name.contains '/' then pure [name] else searchPaths name
      match if isOwn (← scope) name then .ok name else Executable.first found paths with
      | .ok shown =>
          say (shown ++ ['\n'])
          return 0
      | .error _ => return 127

/-- What `command` is to run as if it were no function; nothing, if something else is asked for. -/
def commanded (arguments : List Text) : Option (Text × List Text) :=
  match arguments.dropWhile fun argument => argument == "-p".toList || argument == "--".toList with
  | [] => none
  | name :: rest => if name.head? == some '-' then none else some (name, rest)

/-- Runs a command of the shell or a program by its name, and gives its status. An error in a command
that no function can stand for ends the shell, unless it is `forgiven`. -/
def runNamed (run : Runner) (start : Starter) (tested forgiven : Bool) (name : Text)
    (arguments : List Text) : Effect Nat :=
  match find? run start tested name with
  | some builtin =>
      let action := builtin arguments
      let isForgiven := forgiven || !specialNames.contains name
      about name
        (Builtin.complete name (if isForgiven then Builtin.forgiving action else action))
  | none => runProgram start name arguments

/-- Runs a command by its name, which may be that of a function, and gives its status. -/
def dispatch (run : Runner) (start : Starter) (tested : Bool) (name : Text)
    (arguments : List Text) : Effect Nat := do
  match (← scope).functions.lookup name with
  | some body => call run tested body arguments
  | none =>
      if name == "command".toList then
        match commanded arguments with
        | some (name, rest) => runNamed run start tested true name rest
        | none => about name (Builtin.complete name (Builtin.forgiving (showCommand arguments)))
      else
        runNamed run start tested false name arguments

end Reformat.Shell.Run
