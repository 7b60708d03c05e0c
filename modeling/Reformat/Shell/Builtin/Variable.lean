import Reformat.Shell.Arithmetic
import Reformat.Shell.Builtin.Options
import Reformat.Shell.Expansion
import Reformat.Shell.Frame

/-!
The commands of a shell that change variables, parameters and flags.
-/

namespace Reformat.Shell.Builtin

open Effect

/-- The name of an argument that may also give a value, and the value. -/
def declaration (argument : Text) : Text × Option Text :=
  let name := argument.takeWhile (· ≠ '=')
  match argument.drop name.length with
  | [] => (name, none)
  | _ :: value => (name, some value)

def requireName (name : Text) : Effect Unit := do
  if !isName name then
    fail (name ++ ": bad variable name".toList)

/-- Variables in the order of their names. -/
def sortedVariables : Effect (List (Text × Variable)) := do
  return (← scope).bindings.mergeSort fun left right => !(right.1 < left.1)

/-- Gives variables a mark, and values where there are any. -/
def declare (verb : String) (hasMark : Variable → Bool) (mark : Variable → Variable) : Builtin :=
  fun arguments => do
    let given ← given ['p'] [] arguments
    if given.has 'p' || given.operands.isEmpty then
      for (name, entry) in ← sortedVariables do
        if hasMark entry then
          let value :=
            match entry.value with
            | none => []
            | some value => '=' :: quoted value
          say (verb.toList ++ ' ' :: name ++ value ++ ['\n'])
    else
      for operand in given.operands do
        let (name, value) := declaration operand
        requireName name
        match value with
        | some value => assign name value
        | none => pure ()
        let entry := (← entryOf name).getD ⟨none, false, false⟩
        replaceVariable name (some (mark entry))
    return 0

def exportNames : Builtin :=
  declare "export" Variable.exported fun entry => { entry with exported := true }

def protectNames : Builtin :=
  declare "readonly" Variable.readOnly fun entry => { entry with readOnly := true }

def removeNames : Builtin := fun arguments => do
  let given ← given ['v', 'f'] [] arguments
  for name in given.operands do
    if given.options.getLast? == some ('f', []) then
      changeScope fun scope =>
        { scope with functions := scope.functions.filter fun (other, _) => other ≠ name }
    else
      requireName name
      discard name
  return 0

def localNames : Builtin := fun arguments => do
  if (← scope).frames.isEmpty then
    fail "not in a function".toList
  for argument in arguments do
    let (name, value) := declaration argument
    if name == ['-'] then
      Frame.keepFlags
    else
      requireName name
      Frame.keep name
      match value with
      | some value => assign name value
      | none => pure ()
  return 0

def shift : Builtin := fun arguments => do
  let count ←
    match arguments with
    | [] => pure 1
    | text :: _ => number text
  if (← scope).parameters.length < count then
    fail "can't shift that many".toList
  changeScope fun scope =>
    { scope with parameters := scope.parameters.drop count, options := .first }
  return 0

/-! ## Flags -/

def changeFlag (on : Bool) (flag : Flag) : Effect Unit :=
  changeScope fun scope =>
    let others := scope.flags.filter (· ≠ flag)
    { scope with flags := if on then others ++ [flag] else others }

/-- Changes the flag of a name. -/
def changeNamed (on : Bool) (name : Text) : Effect Unit := do
  match Flag.all.find? fun entry => entry.2.1 == name with
  | some (_, _, flag) => changeFlag on flag
  | none =>
      fail ("Illegal option -o ".toList ++ name)

def listFlags (asCommands : Bool) : Effect Unit := do
  let flags := (← scope).flags
  if !asCommands then
    say "Current option settings\n".toList
  for (_, name, flag) in Flag.all do
    if asCommands then
      say ("set ".toList ++ (if flags.contains flag then '-' else '+') :: "o ".toList ++ name ++
        ['\n'])
    else
      say (name ++ List.replicate (16 - name.length) ' ' ++
        (if flags.contains flag then "on\n" else "off\n").toList)

/-- Changes the flags of letters, one of which asks for a name, and gives the arguments behind the
names. -/
def changeLetters (on : Bool) (arguments : List Text) : Text → Effect (List Text)
  | [] => return arguments
  | letter :: rest => do
      if letter = 'o' then
        match arguments with
        | [] =>
            listFlags !on
            changeLetters on [] rest
        | name :: arguments =>
            changeNamed on name
            changeLetters on arguments rest
      else
        match Flag.all.find? fun entry => entry.1 == some letter with
        | some (_, _, flag) =>
            changeFlag on flag
            changeLetters on arguments rest
        | none => fail ("Illegal option -".toList ++ [letter])

/-- Changes flags, and gives the operands behind them where there are any. -/
def changeFlags : Nat → List Text → Effect (Option (List Text))
  | 0, _ => return none
  | _ + 1, [] => return none
  | fuel + 1, argument :: rest => do
      match argument with
      | ['-', '-'] => return some rest
      | ['-'] =>
          changeFlag false .trace
          changeFlag false (.idle 'v')
          return if rest.isEmpty then none else some rest
      | sign :: letters =>
          if sign = '-' ∨ sign = '+' then
            changeFlags fuel (← changeLetters (sign = '-') rest letters)
          else
            return some (argument :: rest)
      | [] => return some (argument :: rest)

def setAll : Builtin := fun arguments => do
  if arguments.isEmpty then
    for (name, entry) in ← sortedVariables do
      match entry.value with
      | some value => say (name ++ '=' :: quoted value ++ ['\n'])
      | none => pure ()
  else
    match ← changeFlags (arguments.length + 1) arguments with
    | some parameters =>
        changeScope fun scope => { scope with parameters := parameters, options := .first }
    | none => pure ()
  return 0

/-! ## Options of scripts -/

/-- What follows a letter where it is described; a colon says that it takes a value. -/
def description? (letter : Char) : Text → Option Text
  | [] => none
  | c :: rest =>
      if c = letter then some rest
      else
        match rest with
        | ':' :: rest => description? letter rest
        | rest => description? letter rest

/-- The option that is next: what is still to be read of its argument, and the place behind that. -/
def nextOption? (words : List Text) (place : OptionPlace) : Option (Text × Nat) :=
  let word (index : Nat) : Text := (words[index - 1]?).getD []
  let unread := (word (place.index - 1)).drop place.read
  if 1 < place.index && 0 < place.read && !unread.isEmpty then
    some (unread, place.index)
  else
    match word place.index with
    | '-' :: letter :: letters => some (letter :: letters, place.index + 1)
    | _ => none

/-- Takes the next option off arguments: names it in a variable, and gives another one the value that
it takes. -/
def getopts : Builtin := fun arguments => do
  match arguments with
  | descriptions :: name :: own => do
      let scope ← scope
      let words := if own.isEmpty then scope.parameters else own
      let place := if words.length + 1 < scope.options.index then .first else scope.options
      changeScope fun scope => { scope with options := .first }
      let finish (index read : Nat) (value : Text) (status : Nat) : Effect Nat := do
        setValue "OPTIND".toList (Text.Decimal.write index)
        requireName name
        assign name value
        changeScope fun scope => { scope with options := ⟨index, read⟩ }
        return status
      let isSilent := descriptions.head? = some ':'
      let refuse (letter : Char) (message : Text) : Effect Unit := do
        if isSilent then
          assign "OPTARG".toList [letter]
        else
          sayError message
          discard "OPTARG".toList
      match nextOption? words place with
      | none => finish place.index 0 ['?'] 1
      | some ([], index) => finish index 0 ['?'] 1
      | some (letter :: rest, index) =>
          if letter = '-' && rest.isEmpty && index ≠ place.index then
            return ← finish index 0 ['?'] 1
          let read := ((words[index - 2]?).getD []).length - rest.length
          match description? letter descriptions with
          | none =>
              refuse letter ("Illegal option -".toList ++ [letter, '\n'])
              finish index read ['?'] 0
          | some (':' :: _) =>
              match rest, words[index - 1]? with
              | _ :: _, _ =>
                  assign "OPTARG".toList rest
                  finish index 0 [letter] 0
              | [], some value =>
                  assign "OPTARG".toList value
                  finish (index + 1) 0 [letter] 0
              | [], none =>
                  refuse letter ("No arg for -".toList ++ letter :: " option\n".toList)
                  finish index 0 [if isSilent then ':' else '?'] 0
          | some _ =>
              assign "OPTARG".toList []
              finish index read [letter] 0
  | _ => fail "Usage: getopts optstring var [arg...]".toList

end Reformat.Shell.Builtin
