import Reformat.Shell.Builtin.Line
import Reformat.Shell.Format

/-!
The commands of a shell that run no others.
-/

namespace Reformat.Shell.Builtin

open Effect

/-- A command that gives up leaves a status, and the shell goes on. -/
def forgiving (action : Effect Nat) : Effect Nat :=
  tryCatch action fun interrupt =>
    match interrupt with
    | .failed => status
    | other => throw other

/-! ## Leaving -/

def exitShell : Builtin := fun arguments => do
  let scope ← scope
  match arguments with
  | [] => Effect.exit (scope.trapStatus.getD scope.status)
  | text :: _ => Effect.exit (← number text)

def returnWith : Builtin := fun arguments => do
  match arguments with
  | [] => throw (.returned false)
  | text :: _ =>
      setStatus (← number text)
      throw (.returned true)

/-- Leaves loops, or goes on with the last of them. -/
def leave (again : Bool) : Builtin := fun arguments => do
  let count ←
    match arguments with
    | [] => pure 1
    | text :: _ => number text
  if count = 0 then
    fail ("Illegal number: ".toList ++ arguments.headD [])
  let loops := (← scope).loops
  if loops = 0 then
    return 0
  setStatus 0
  throw (.leave (min count loops) again)

/-! ## Printing -/

/-- Does what a command does, and complains if something that it told could not be written. -/
def complete (name : Text) (action : Effect Nat) : Effect Nat := do
  let status ← action
  if (← scope).loss.isNone then
    return status
  changeScope fun scope => { scope with loss := none }
  complain (name ++ ": I/O error".toList)
  return status ||| 1

def echo : Builtin := fun arguments =>
  deliver (Format.echo arguments) 0

def printf : Builtin := fun arguments => do
  let given ← given [] [] arguments
  match given.operands with
  | [] => fail "usage: printf format [arg ...]".toList
  | format :: arguments =>
      let printed := Format.print format arguments
      printed.complaints.forM complain
      let status := if printed.failed then 2 else if printed.complaints.isEmpty then 0 else 1
      deliver printed.output status

/-! ## Places -/

/-- A location as a path from the root. -/
def pathOf (location : Location) : Text :=
  '/' :: ['/'].intercalate location

def pwd : Builtin := fun arguments => do
  let _ ← given ['L', 'P'] [] arguments
  deliver (pathOf (← scope).directory ++ ['\n']) 0

/-- The location that a path names if no name in it is looked at. -/
def plainLocation (start : Location) (path : Text) : Location :=
  (path.splitOn '/').foldl
    (fun location piece =>
      if Path.isIdle piece then location
      else if piece = ['.', '.'] then location.dropLast
      else location ++ [piece])
    (if path.head? = some '/' then [] else start)

/-- Gives a variable a value that programs are given too. -/
def assignExported (name value : Text) : Effect Unit := do
  assign name value
  match ← entryOf name with
  | some entry => replaceVariable name (some { entry with exported := true })
  | none => pure ()

def cd : Builtin := fun arguments => do
  let given ← given ['L', 'P'] [] arguments
  let isBack := given.operands.head? == some ['-']
  let target ←
    match given.operands with
    | [] => valueOf "HOME".toList
    | operand :: _ => if isBack then valueOf "OLDPWD".toList else pure (some operand)
  let target := target.getD []
  let before := (← scope).directory
  let location := plainLocation before target
  if (← tree).find? location != some .directory then
    fail ("can't cd to ".toList ++ target)
  assignExported "OLDPWD".toList (pathOf before)
  changeScope fun scope => { scope with directory := location }
  assignExported "PWD".toList (pathOf location)
  if isBack then
    say (pathOf location ++ ['\n'])
  return 0

def test (name : Text) : Builtin := fun arguments => do
  let words ←
    if name == ['['] then
      if arguments.getLast? != some [']'] then
        fail "missing ]".toList
      pure arguments.dropLast
    else
      pure arguments
  let state ← get
  match Condition.evaluate (Condition.Entry.ofPath? state) words with
  | .ok holds => return if holds then 0 else 1
  | .error failure => fail failure.message

/-! ## Signals -/

def listTraps : Effect Unit := do
  let traps := (← scope).traps.mergeSort fun left right => left.1 ≤ right.1
  for (signal, action) in traps do
    say ("trap -- ".toList ++ quoted action ++ ' ' :: Signal.name signal ++ ['\n'])

/-- Sets what is done on signals, up to one that is not known. -/
def setTraps (action : Option Text) : Builtin
  | [] => return 0
  | operand :: rest => do
      match Signal.read? operand with
      | none =>
          sayError ("trap: ".toList ++ operand ++ ": bad trap\n".toList)
          return 1
      | some signal =>
          changeScope fun scope =>
            let others := scope.traps.filter fun (other, _) => other ≠ signal
            { scope with traps := (action.map fun action => (signal, action)).toList ++ others }
          setTraps action rest

def trap : Builtin := fun arguments => do
  let given ← given [] [] arguments
  match given.operands with
  | [] =>
      listTraps
      return 0
  | [operand] => setTraps none [operand]
  | action :: signals =>
      if (Text.Decimal.digits? action).any (· < Signal.bound) then
        setTraps none (action :: signals)
      else
        setTraps (if action == ['-'] then none else some action) signals

/-- Sends a signal to a process, which is the shell or one around it. -/
def send (signal : Nat) (operand : Text) : Effect Bool := do
  let target ←
    match operand with
    | '-' :: digits => number digits
    | digits => number digits
  let scope ← scope
  let target := if target = 0 then scope.process else target
  if target = scope.process || scope.shells.contains target then
    post target signal
    return true
  complain "No such process\n".toList
  return false

def kill : Builtin := fun arguments => do
  let sendAll (signal : Nat) (operands : List Text) : Effect Nat := do
    if operands.isEmpty then
      fail ("Usage: kill [-s sigspec | -signum | -sigspec] [pid | job]... or\n" ++
        "kill -l [exitstatus]").toList
    let sent ← operands.mapM (send signal)
    return if sent.all id then 0 else 1
  let chosen : Option (Nat × List Text) :=
    match arguments with
    | ('-' :: name) :: rest => ((Signal.read? name).filter fun signal =>
        0 < signal || name == ['0']).map fun signal => (signal, rest)
    | _ => none
  match chosen with
  | some (signal, operands) => sendAll signal operands
  | none =>
      let given ← given [] ['s'] arguments
      match given.value? 's' with
      | none => sendAll 15 given.operands
      | some name =>
          match Signal.read? name with
          | some signal => sendAll signal given.operands
          | none => fail ("invalid signal number or name: ".toList ++ name)

/-! ## All of them -/

/-- The command of a name, among those that run no others. -/
def find? (name : Text) : Option Builtin :=
  match String.ofList name with
  | ":" => some fun _ => return 0
  | "true" => some fun _ => return 0
  | "false" => some fun _ => return 1
  | "break" => some (leave false)
  | "cd" => some cd
  | "continue" => some (leave true)
  | "echo" => some echo
  | "exit" => some exitShell
  | "export" => some exportNames
  | "getopts" => some getopts
  | "kill" => some kill
  | "local" => some localNames
  | "printf" => some printf
  | "pwd" => some pwd
  | "read" => some read
  | "readonly" => some protectNames
  | "return" => some returnWith
  | "set" => some setAll
  | "shift" => some shift
  | "test" => some (test name)
  | "[" => some (test name)
  | "trap" => some trap
  | "unset" => some removeNames
  | _ => none

end Reformat.Shell.Builtin
