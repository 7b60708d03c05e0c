import Reformat.Shell.Effect.Channel
import Reformat.Shell.Number

/-!
What commands tell, and what they do to variables.
-/

namespace Reformat.Shell.Effect

/-! ## Messages -/

/-- A message of the shell, behind its name, the line and the command that it is about. -/
def complain (message : Text) : Effect Unit := do
  let scope ← scope
  let about :=
    match scope.commandName with
    | none => []
    | some name => name ++ ": ".toList
  sayError (scope.name ++ ": ".toList ++ Text.Decimal.write scope.line ++ ": ".toList ++ about ++
    message ++ ['\n'])

/-- Leaves the shell with a status. -/
def exit {α : Type} (status : Nat) : Effect α := do
  setStatus status
  throw .exit

/-- Gives up with a message. -/
def fail {α : Type} (message : Text) : Effect α := do
  complain message
  setStatus 2
  throw .failed

/-- Gives messages the name of a command. -/
def about {α : Type} (name : Text) (action : Effect α) : Effect α := do
  let outer := (← scope).commandName
  changeScope fun scope => { scope with commandName := some name }
  try
    action
  finally
    changeScope fun scope => { scope with commandName := outer }

/-! ## Variables -/

def entryOf (name : Text) : Effect (Option Variable) := do
  return (← scope).bindings.lookup name

def valueOf (name : Text) : Effect (Option Text) := do
  return (← entryOf name).bind (·.value)

/-- Puts a variable in the place of the one of that name, but not a new value. -/
def replaceVariable (name : Text) (entry : Option Variable) : Effect Unit :=
  changeScope fun scope =>
    let bindings :=
      match entry with
      | some entry => Table.put name entry scope.bindings
      | none => Table.erase name scope.bindings
    { scope with bindings := bindings }

/-- A whole number as the shell takes it. -/
def number (text : Text) : Effect Nat :=
  match (Number.whole? (some 10) text).filter fun value => 0 ≤ value && value < 2147483648 with
  | some value => pure value.toNat
  | none => fail ("Illegal number: ".toList ++ text)

/-- Does what a new value of a variable asks for: options are taken off from another place on. -/
def heed (name : Text) (value : Option Text) : Effect Unit := do
  if name == "OPTIND".toList then
    let index ← number (value.getD [])
    changeScope fun scope => { scope with options := ⟨max 1 index, 0⟩ }

/-- Gives up where a variable must not be changed. -/
def requireFree (name : Text) : Effect Unit := do
  if (← entryOf name).any Variable.readOnly then
    fail (name ++ ": is read only".toList)

/-- Gives a variable a value that asks for nothing. -/
def setValue (name value : Text) : Effect Unit := do
  requireFree name
  let entry := (← entryOf name).getD ⟨none, false, false⟩
  replaceVariable name (some { entry with value := some value })

def assign (name value : Text) : Effect Unit := do
  requireFree name
  heed name (some value)
  setValue name value

/-- The variables that are never forgotten. -/
def lastingNames : List Text :=
  ["IFS", "MAIL", "MAILPATH", "OPTIND", "PATH", "PS1", "PS2", "PS4"].map String.toList

/-- Takes the value of a variable away. One that is never forgotten, or that is to be restored, stays
marked as it is. -/
def discard (name : Text) : Effect Unit := do
  requireFree name
  let isKept := (← scope).frames.any fun frame => (frame.bindings.lookup name).isSome
  heed name none
  match ← entryOf name with
  | some entry =>
      let lasts := isKept || lastingNames.contains name
      replaceVariable name (if lasts then some { entry with value := none } else none)
  | none => return ()

/-- The characters between which fields are told apart. -/
def separators : Effect Text := do
  return (← valueOf "IFS".toList).getD [' ', '\t', '\n']

/-- The letters of the flags that are set. -/
def flagLetters : Effect Text := do
  let flags := (← scope).flags
  let set := Flag.all.filter fun (_, _, flag) => flags.contains flag
  return set.reverse.filterMap fun (letter, _, _) => letter

/-- The value of a parameter that is a single text. -/
def parameter (name : Text) : Effect (Option Text) := do
  let scope ← scope
  match name with
  | ['#'] => return some (Text.Decimal.write scope.parameters.length)
  | ['?'] => return some (Text.Decimal.write scope.status)
  | ['$'] => return some (Text.Decimal.write scope.process)
  | ['!'] => return scope.job.map Text.Decimal.write
  | ['-'] => return some (← flagLetters)
  | _ =>
      if name.all Char.isDigit && !name.isEmpty then
        match Nat.ofDigitChars 10 name 0 with
        | 0 => return some scope.name
        | index + 1 => return scope.parameters[index]?
      else
        valueOf name

end Reformat.Shell.Effect
