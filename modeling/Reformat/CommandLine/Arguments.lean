import Reformat.Files.Path
import Reformat.Text.Decimal
import Reformat.Text.Split

/-!
The arguments of a command line. They are read from left to right, and what comes first decides: a
request for the version or for help ends the reading, and so does an error.
-/

namespace Reformat.CommandLine

structure Options where
  file : Option Path
  style : Option Text
  fallbackStyle : Option Text
  assumeFilename : Option Path
  cursor : Option Nat
  region : Option (Nat × Nat)
  changed : Bool
  revision : Option Text
  inPlace : Bool
  printCursor : Bool
  formatter : Option Path
  diff : Option Path
  git : Option Path
  verbose : Bool
  save : Bool
  clear : Bool
deriving DecidableEq, Repr

def Options.empty : Options where
  file := none
  style := none
  fallbackStyle := none
  assumeFilename := none
  cursor := none
  region := none
  changed := false
  revision := none
  inPlace := false
  printCursor := false
  formatter := none
  diff := none
  git := none
  verbose := false
  save := false
  clear := false

/-- Why the arguments are not read to the end. -/
inductive Stop where
  | usage
  | version
  | help
deriving DecidableEq, Repr

/-- The options without a value. -/
inductive Switch where
  | changed
  | inPlace
  | printCursor
  | verbose
  | save
  | clear
  | version
  | help
deriving DecidableEq, Repr

/-- The options with a value. -/
inductive Setting where
  | style
  | fallbackStyle
  | assumeFilename
  | cursor
  | region
  | revision
  | formatter
  | diff
  | git
deriving DecidableEq, Repr

def switches : List (String × Switch) := [
  ("changed", .changed), ("in-place", .inPlace), ("print-cursor", .printCursor),
  ("verbose", .verbose), ("save", .save), ("clear", .clear), ("version", .version),
  ("help", .help)]

def settings : List (String × Setting) := [
  ("style", .style), ("fallback-style", .fallbackStyle), ("assume-filename", .assumeFilename),
  ("cursor", .cursor), ("region", .region), ("revision", .revision), ("formatter", .formatter),
  ("diff", .diff), ("git", .git)]

def switchNamed? (name : Text) : Option Switch :=
  (switches.find? fun entry => entry.1.toList == name).map Prod.snd

def settingNamed? (name : Text) : Option Setting :=
  (settings.find? fun entry => entry.1.toList == name).map Prod.snd

def switchLettered? : Char → Option Switch
  | 'i' => some .inPlace
  | 'v' => some .verbose
  | 'V' => some .version
  | 'h' => some .help
  | _ => none

/-- A field that nothing has set yet. -/
def once {α : Type} (field : Option α) : Except Stop Unit :=
  match field with
  | none => return ()
  | some _ => throw .usage

def raise (field : Bool) : Except Stop Bool :=
  if field then throw .usage else return true

def readPath (value : Text) : Except Stop (Option Path) :=
  if value.isEmpty then throw .usage else return some value

def readNumber (value : Text) : Except Stop Nat :=
  match Text.Decimal.read? value with
  | some number => return number
  | none => throw .usage

/-- Two positions with a colon between them. -/
def readRegion (value : Text) : Except Stop (Nat × Nat) :=
  match Text.splitOnce? ':' value with
  | none => throw .usage
  | some (first, last) => do
      return (← readNumber first, ← readNumber last)

namespace Options

def turnOn (options : Options) : Switch → Except Stop Options
  | .changed => do return { options with changed := ← raise options.changed }
  | .inPlace => do return { options with inPlace := ← raise options.inPlace }
  | .printCursor => do return { options with printCursor := ← raise options.printCursor }
  | .verbose => do return { options with verbose := ← raise options.verbose }
  | .save => do return { options with save := ← raise options.save }
  | .clear => do return { options with clear := ← raise options.clear }
  | .version => throw .version
  | .help => throw .help

def assign (options : Options) (setting : Setting) (value : Text) : Except Stop Options :=
  match setting with
  | .style => do
      once options.style
      return { options with style := some value }
  | .fallbackStyle => do
      once options.fallbackStyle
      return { options with fallbackStyle := some value }
  | .assumeFilename => do
      once options.assumeFilename
      return { options with assumeFilename := ← readPath value }
  | .cursor => do
      once options.cursor
      return { options with cursor := some (← readNumber value) }
  | .region => do
      once options.region
      return { options with region := some (← readRegion value) }
  | .revision => do
      once options.revision
      return { options with revision := some value }
  | .formatter => do
      once options.formatter
      return { options with formatter := ← readPath value }
  | .diff => do
      once options.diff
      return { options with diff := ← readPath value }
  | .git => do
      once options.git
      return { options with git := ← readPath value }

def positional (options : Options) (value : Text) : Except Stop Options := do
  once options.file
  return { options with file := ← readPath value }

/-- Letters behind one dash. -/
def cluster (options : Options) : Text → Except Stop Options
  | [] => return options
  | letter :: rest =>
      match switchLettered? letter with
      | none => throw .usage
      | some switch => do cluster (← options.turnOn switch) rest

/-- Arguments behind `--`. -/
def positionals (options : Options) : List Text → Except Stop Options
  | [] => return options
  | value :: rest => do positionals (← options.positional value) rest

/-- Whether an argument cannot be a value that stands on its own. A lone dash can. -/
def isDashed (argument : Text) : Bool :=
  argument.head? == some '-' && argument != ['-']

def read (options : Options) : List Text → Except Stop Options
  | [] => return options
  | argument :: rest =>
      match argument with
      | ['-', '-'] => positionals options rest
      | '-' :: '-' :: long =>
          match Text.splitOnce? '=' long with
          | some (name, value) =>
              match settingNamed? name with
              | some setting => do read (← options.assign setting value) rest
              | none => throw .usage
          | none =>
              match switchNamed? long, settingNamed? long, rest with
              | some switch, _, rest => do read (← options.turnOn switch) rest
              | none, none, _ => throw .usage
              | none, some _, [] => throw .usage
              | none, some setting, value :: rest =>
                  if isDashed value then
                    throw .usage
                  else do
                    read (← options.assign setting value) rest
      | '-' :: letter :: letters => do
          read (← options.cluster (letter :: letters)) rest
      | value => do
          read (← options.positional value) rest

end Options

/-- The options of a command line, with the file they are about. -/
def parse (arguments : List Text) : Except Stop (Options × Path) := do
  let options ← Options.empty.read arguments
  match options.file with
  | none => throw .usage
  | some file =>
      if options.changed && options.region.isSome then
        throw .usage
      else
        return (options, file)

end Reformat.CommandLine
