import Reformat.Shell.Arithmetic
import Reformat.Shell.Effect
import Reformat.Shell.Pattern

/-!
From words to fields: home directories, parameters, outputs of commands and arithmetic are put in,
what was put in is taken apart at separators, and patterns give way to the names that they match.
-/

namespace Reformat.Shell

/-- A piece of an expanded word. -/
inductive Atom where
  /-- A character is `open` where it may separate fields. -/
  | char (c : Char) (quoted isOpen : Bool)
  /-- There is a field, even if it has no characters. -/
  | present
  /-- A field ends and another one begins. -/
  | divide
  /-- Something begins that was put in: several values in quotes, or anything else. -/
  | region (isValues : Bool)
deriving DecidableEq, Repr

/-- A character of a field, and whether it is quoted. -/
abbrev Marked := Char × Bool

namespace Atom

def ofText (text : Text) (quoted : Bool) : List Atom :=
  if quoted then
    .present :: text.map (.char · true false)
  else
    .region false :: text.map (.char · false true)

def ofValuesWithin (quoted : Bool) : List Text → List Atom
  | [] => []
  | [value] => (ofText value quoted).filter (· ≠ .region false)
  | value :: rest =>
      (ofText value quoted).filter (· ≠ .region false) ++ .divide :: ofValuesWithin quoted rest

/-- Several values, each in a field of its own. -/
def ofValues (values : List Text) (quoted : Bool) : List Atom :=
  if values.isEmpty then [] else .region quoted :: ofValuesWithin quoted values

/-- The characters of atoms that are to be one text. -/
def marked (atoms : List Atom) : List Marked :=
  atoms.filterMap fun atom =>
    match atom with
    | .char c quoted _ => some (c, quoted)
    | _ => none

def text (atoms : List Atom) : Text :=
  (marked atoms).map Prod.fst

/-- What is known where atoms are taken apart. -/
structure Splitting where
  /-- The field under way, the last character first. -/
  field : Option (List Marked)
  /-- Whether blanks have just ended a field. -/
  isBehindBlank : Bool
  /-- Whether the atoms at hand are several values in quotes. -/
  isValues : Bool
  /-- Whether such values stood in front of what was put in here, so that each blank ends a field. -/
  isBehindValues : Bool

namespace Splitting

def start : Splitting :=
  ⟨none, false, false, false⟩

/-- Behind the end of a field. -/
def ended (splitting : Splitting) (isBehindBlank : Bool) : Splitting :=
  { splitting with field := none, isBehindBlank := isBehindBlank }

/-- What was there of the field under way. -/
def last (splitting : Splitting) : List (List Marked) :=
  (splitting.field.map List.reverse).toList

/-- The field under way, which is there even if nothing of it was. -/
def whole (splitting : Splitting) : List Marked :=
  (splitting.field.getD []).reverse

def add (splitting : Splitting) (more : List Marked) : Splitting :=
  { splitting with field := some (more ++ splitting.field.getD []), isBehindBlank := false }

end Splitting

/-- Ends the field under way, or skips a blank in front of one. -/
def Splitting.divide (splitting : Splitting) (isBlank : Bool) : List (List Marked) × Splitting :=
  let isBlank := isBlank && !splitting.isBehindValues
  match splitting.field with
  | some _ => ([splitting.whole], splitting.ended isBlank)
  | none =>
      if isBlank then ([], splitting)
      else if splitting.isBehindBlank then ([], splitting.ended false)
      else ([[]], splitting.ended false)

/-- The fields of atoms behind others. -/
def fieldsFrom (separators : Text) (splitting : Splitting) : List Atom → List (List Marked)
  | [] => splitting.last
  | .present :: rest => fieldsFrom separators (splitting.add []) rest
  | .region isValues :: rest =>
      fieldsFrom separators ⟨splitting.field, false, isValues, splitting.isValues⟩ rest
  | .divide :: rest =>
      let (ended, splitting) := splitting.divide (!splitting.isValues)
      ended ++ fieldsFrom separators splitting rest
  | .char c quoted isOpen :: rest =>
      if isOpen && !quoted && separators.contains c then
        let (ended, splitting) := splitting.divide (c ∈ [' ', '\t', '\n'])
        ended ++ fieldsFrom separators splitting rest
      else
        fieldsFrom separators (splitting.add [(c, quoted)]) rest

def fields (separators : Text) (atoms : List Atom) : List (List Marked) :=
  fieldsFrom separators .start atoms

end Atom

/-- How a command is run for its output. -/
abbrev Capture := Command → Effect Text

/-- Where a tilde stands for a home directory. -/
structure Homes where
  atStart : Bool
  /-- Behind colons. -/
  colons : Bool
  /-- Behind the first sign of an assignment. -/
  sign : Bool

namespace Homes

def nowhere : Homes :=
  ⟨false, false, false⟩

def word : Homes :=
  ⟨true, false, false⟩

/-- In the value of an assignment. -/
def value : Homes :=
  ⟨true, true, false⟩

/-- In an assignment that is an argument of a command. -/
def assignment : Homes :=
  ⟨false, true, true⟩

/-- In the word that belongs to a parameter. -/
def inside (homes : Homes) : Homes :=
  ⟨true, homes.colons, homes.colons⟩

/-- Behind a piece of a word. -/
def behind (homes : Homes) (part : Part) : Homes :=
  let hasSign : Bool :=
    match part with
    | .text value false => value.contains '='
    | _ => false
  ⟨false, homes.colons, homes.sign && !hasSign⟩

/-- Text without quotes, in which homes are put in. The last piece of a word ends a name. -/
def put (home : Text → Option Text) (isOpen isLast : Bool) : Nat → Homes → Text → List Atom
  | 0, _, _ => []
  | _ + 1, _, [] => []
  | fuel + 1, homes, c :: rest =>
      let isEnd (c : Char) : Bool := c == '/' || (homes.colons && c == ':')
      let name := rest.takeWhile fun c => !isEnd c
      let behind := rest.drop name.length
      let after : Homes :=
        ⟨(homes.colons && c == ':') || (homes.sign && c == '='), homes.colons,
          homes.sign && c ≠ '='⟩
      let plain := .char c false isOpen :: put home isOpen isLast fuel after rest
      if homes.atStart && c == '~' && (isLast || !behind.isEmpty) then
        match home name with
        | some directory => directory.map (.char · true false) ++
            put home isOpen isLast fuel { after with atStart := false } behind
        | none => plain
      else
        plain

end Homes

namespace Expansion

open Effect

/-- The values of a parameter. -/
def valuesOf (name : Text) : Effect (Option (List Text)) := do
  if name == ['@'] || name == ['*'] then
    return some (← scope).parameters
  return (← parameter name).map fun value => [value]

/-- The homes of some users that every system has. -/
def homeOf (name : Text) : Option Text :=
  match String.ofList name with
  | "root" => some "/root".toList
  | "daemon" => some "/usr/sbin".toList
  | "bin" => some "/bin".toList
  | "sys" => some "/dev".toList
  | "nobody" => some "/nonexistent".toList
  | _ => none

/-- What may be taken apart into fields. -/
inductive Reach where
  | nothing
  /-- What is put in. -/
  | results
  /-- What is put in, and the text around it. -/
  | everything
deriving DecidableEq, Repr

/-- Whether a parameter stands for several values. -/
def isList (name : Text) : Bool :=
  name == ['@'] || name == ['*']

/-- What stands between the values of a parameter: a text, or else each of them is in a field of its
own. -/
def joint? (name : Text) (quoted : Bool) (reach : Reach) : Effect (Option Text) := do
  if !isList name then
    return some []
  let separators ← valueOf "IFS".toList
  if reach = .nothing || (quoted && name == ['*']) then
    return some ((separators.map (·.take 1)).getD [' '])
  return if !quoted && separators.isNone then some [' '] else none

/-- The values of a parameter as one text, changed in some way, as atoms. -/
def placeChanged (change : Text → Text) (name : Text) (values : List Text) (quoted : Bool)
    (reach : Reach) : Effect (List Atom) := do
  match ← joint? name quoted reach with
  | some joint => return Atom.ofText (change (joint.intercalate values)) quoted
  | none =>
      let text := change ([Pattern.division].intercalate values)
      return Atom.ofValues (text.splitOn Pattern.division) quoted

/-- The values of a parameter as atoms. -/
def place (name : Text) (values : List Text) (quoted : Bool) (reach : Reach) :
    Effect (List Atom) := do
  match ← joint? name quoted reach with
  | some joint => return Atom.ofText (joint.intercalate values) quoted
  | none => return Atom.ofValues values quoted

/-- The length of the values of a parameter as one text. -/
def lengthOf (name : Text) (values : List Text) : Effect Nat := do
  let joint ← joint? name true .nothing
  return ((joint.getD []).intercalate values).length

/-- Evaluates arithmetic and keeps the variables that it assigns. -/
def calculate (expression : Text) : Effect Text := do
  let bindings := (← scope).bindings.filterMap fun (name, entry) =>
    entry.value.map fun value => (name, value)
  let (result, after) := Arithmetic.evaluate bindings expression
  let assigned := after.take (after.length - bindings.length)
  assigned.reverse.forM fun (name, value) => assign name value
  match result with
  | .error .overflow => throw (.killed 8)
  | .error failure => fail (failure.message expression)
  | .ok value => return Arithmetic.write value

/-- The atoms of pieces. -/
def expand (capture : Capture) : Nat → Homes → Reach → List Part → Effect (List Atom)
  | 0, _, _, _ => return []
  | _ + 1, _, _, [] => return []
  | fuel + 1, homes, reach, part :: rest => do
      let own ←
        match part with
        | .text value quoted =>
            if quoted then
              pure (Atom.ofText value true)
            else
              let own ← valueOf "HOME".toList
              let home (name : Text) : Option Text := if name.isEmpty then own else homeOf name
              let isOpen := reach = .everything
              let own := homes.put home isOpen rest.isEmpty (value.length + 1) value
              pure (if isOpen then .region false :: own else own)
        | .output body quoted => do
            pure (Atom.ofText (← capture body) quoted)
        | .arithmetic expression quoted => do
            let text := Atom.text (← expand capture fuel .nowhere .nothing expression)
            pure (Atom.ofText (← calculate text) quoted)
        | .parameter name modifier argument quoted => do
            let values ← valuesOf name
            let isUnset (orEmpty : Bool) : Bool :=
              match values with
              | none => true
              | some values =>
                  if isList name then
                    values.isEmpty || (orEmpty && values.all List.isEmpty)
                  else
                    orEmpty && values.all List.isEmpty
            let refused ← has .refuseUnset
            let present : Effect (List Text) := do
              match values with
              | some values => return values
              | none =>
                  if refused then
                    fail (name ++ ": parameter not set".toList)
                  return [[]]
            let other : Effect (List Atom) := do
              let inner := if reach = .nothing then Reach.nothing else .everything
              let atoms ← expand capture fuel homes.inside inner argument
              return if quoted then .present :: atoms else atoms
            let pattern : Effect Pattern := do
              return Pattern.ofQuoted (Atom.marked (← expand capture fuel .word .nothing argument))
            match modifier with
            | .invalid => fail "Bad substitution".toList
            | .plain =>
                if values.isNone && !quoted && !refused then pure []
                else place name (← present) quoted reach
            | .length => do
                let length ← lengthOf name (← present)
                pure (Atom.ofText (Text.Decimal.write length) quoted)
            | .fallback orEmpty =>
                if isUnset orEmpty then other else place name (values.getD []) quoted reach
            | .alternative orEmpty =>
                if isUnset orEmpty then
                  pure (if quoted then [.present] else [])
                else
                  other
            | .assign orEmpty =>
                if isUnset orEmpty then do
                  let value := Atom.text (← expand capture fuel homes.inside .nothing argument)
                  if !isName name then
                    fail (name ++ ": bad variable name".toList)
                  assign name value
                  pure (Atom.ofText value quoted)
                else
                  place name (values.getD []) quoted reach
            | .demand orEmpty =>
                if isUnset orEmpty then do
                  let message := Atom.text (← expand capture fuel homes.inside .nothing argument)
                  let message :=
                    if argument.isEmpty then
                      (if orEmpty then "parameter not set or null" else "parameter not set").toList
                    else
                      message
                  fail (name ++ ": ".toList ++ message)
                else
                  place name (values.getD []) quoted reach
            | .trimFront longest => do
                let pattern ← pattern
                placeChanged (pattern.trimFront longest) name (← present) quoted reach
            | .trimBack longest => do
                let pattern ← pattern
                placeChanged (pattern.trimBack longest) name (← present) quoted reach
      return own ++ (← expand capture fuel (homes.behind part) reach rest)

/-- More than the pieces of a word can nest. -/
def depth : Nat :=
  100000

/-- The names of what a directory holds, itself and the one around it among them. -/
def namesIn (tree : Tree) (path : Text) : List Text :=
  match tree.locate (if path.isEmpty then ['.'] else path) with
  | .error _ => []
  | .ok directory =>
      if tree.find? directory != some .directory then
        []
      else
        ['.'] :: ['.', '.'] :: tree.entries.filterMap fun (location, _) =>
          if location.dropLast = directory then location.getLast? else none

/-- The paths behind a front that pieces match, one by one, as patterns. -/
def matching (tree : Tree) (front : Text) : List (List Marked) → List Text
  | [] => []
  | piece :: rest =>
      let pattern := Pattern.ofQuoted piece
      let own := piece.map Prod.fst
      if !pattern.isOpen then
        let path := front ++ (Pattern.unescape piece).map Prod.fst
        if !rest.isEmpty then matching tree (path ++ ['/']) rest
        else if tree.has path then [path]
        else []
      else
        let found := (namesIn tree front).filter fun name =>
          pattern.accepts name && (own.head? = some '.' || name.head? != some '.')
        if rest.isEmpty then
          found.map (front ++ ·)
        else
          found.flatMap fun name => matching tree (front ++ name ++ ['/']) rest

/-- A field taken apart at slashes. -/
def piecesOf (field : List Marked) : List (List Marked) :=
  field.splitOnP fun (c, _) => c == '/'

/-- A field, or the names that it matches as a pattern. -/
def paths (field : List Marked) : Effect (List Text) := do
  let text := field.map Prod.fst
  if !(Pattern.ofQuoted field).isOpen || (← has .noPatterns) then
    return [text]
  match matching (← tree) [] (piecesOf field) with
  | [] => return [text]
  | names => return names.mergeSort fun left right => !(right < left)

/-- The fields of a word. -/
def fields (capture : Capture) (word : Word) : Effect (List Text) := do
  let atoms ← expand capture depth .word .results word
  let fields := Atom.fields (← separators) atoms
  return (← fields.mapM paths).flatten

/-- A word as one text. -/
def single (capture : Capture) (homes : Homes) (word : Word) : Effect Text := do
  return Atom.text (← expand capture depth homes .nothing word)

def pattern (capture : Capture) (word : Word) : Effect Pattern := do
  return Pattern.ofQuoted (Atom.marked (← expand capture depth .word .nothing word))

end Expansion

end Reformat.Shell
