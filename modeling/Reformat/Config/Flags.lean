import Reformat.Format.Style
import Reformat.Text.Split

/-!
The options that can be kept as defaults, read from tokens as they stand on a command line or in a
file. Main statement: layers may be put on one another in any grouping, and an empty layer changes
nothing.
-/

namespace Reformat

structure Flags where
  style : Option Text
  fallbackStyle : Option Text
  revision : Option Text
  formatter : Option Path
  diff : Option Path
  git : Option Path
  verbose : Bool
deriving DecidableEq, Repr

namespace Flags

def empty : Flags where
  style := none
  fallbackStyle := none
  revision := none
  formatter := none
  diff := none
  git := none
  verbose := false

/-- The options that take a value. -/
inductive Field where
  | style
  | fallbackStyle
  | revision
  | formatter
  | diff
  | git
deriving DecidableEq, Repr

namespace Field

/-- The order in which they are saved. -/
def all : List Field :=
  [style, fallbackStyle, revision, formatter, diff, git]

def name : Field → Text
  | style => "--style".toList
  | fallbackStyle => "--fallback-style".toList
  | revision => "--revision".toList
  | formatter => "--formatter".toList
  | diff => "--diff".toList
  | git => "--git".toList

def ofName? (name : Text) : Option Field :=
  all.find? fun field => field.name == name

@[simp]
theorem ofName?_name (field : Field) : ofName? field.name = some field := by
  cases field <;> decide

end Field

def get (flags : Flags) : Field → Option Text
  | .style => flags.style
  | .fallbackStyle => flags.fallbackStyle
  | .revision => flags.revision
  | .formatter => flags.formatter
  | .diff => flags.diff
  | .git => flags.git

def set (flags : Flags) (field : Field) (value : Text) : Flags :=
  match field with
  | .style => { flags with style := some value }
  | .fallbackStyle => { flags with fallbackStyle := some value }
  | .revision => { flags with revision := some value }
  | .formatter => { flags with formatter := some value }
  | .diff => { flags with diff := some value }
  | .git => { flags with git := some value }

/-- The option and the value of a token `--name=value`. -/
def assignment? (token : Text) : Option (Field × Text) :=
  match Text.splitOnce? '=' token with
  | some (name, value) => (Field.ofName? name).map fun field => (field, value)
  | none => none

def isVerbose (token : Text) : Bool :=
  token == "--verbose".toList || token == "-v".toList

/-- Reads tokens from left to right into flags. An option that stands alone takes the next token as
its value, whatever it is; a token that is none of the options is passed over. -/
def readTokens (flags : Flags) : List Text → Flags
  | [] => flags
  | token :: rest =>
      if isVerbose token then
        readTokens { flags with verbose := true } rest
      else
        match assignment? token with
        | some (field, value) => readTokens (flags.set field value) rest
        | none =>
            match Field.ofName? token, rest with
            | none, rest => readTokens flags rest
            | some _, [] => flags
            | some field, value :: rest => readTokens (flags.set field value) rest

def ofTokens (tokens : List Text) : Flags :=
  empty.readTokens tokens

/-- Puts a layer on top of another: its options win, and either makes the result verbose. -/
def union (lower upper : Flags) : Flags where
  style := upper.style.or lower.style
  fallbackStyle := upper.fallbackStyle.or lower.fallbackStyle
  revision := upper.revision.or lower.revision
  formatter := upper.formatter.or lower.formatter
  diff := upper.diff.or lower.diff
  git := upper.git.or lower.git
  verbose := lower.verbose || upper.verbose

def formatStyle (flags : Flags) (assumeFilename : Option Path) : Style :=
  ⟨flags.style, flags.fallbackStyle, assumeFilename⟩

def revisionOrHead (flags : Flags) : Text :=
  flags.revision.getD "HEAD".toList

theorem union_assoc (first second third : Flags) :
    (first.union second).union third = first.union (second.union third) := by
  simp [union, Option.or_assoc, Bool.or_assoc]

@[simp]
theorem empty_union (flags : Flags) : empty.union flags = flags := by
  simp [union, empty]

@[simp]
theorem union_empty (flags : Flags) : flags.union empty = flags := by
  simp [union, empty]

end Flags

end Reformat
