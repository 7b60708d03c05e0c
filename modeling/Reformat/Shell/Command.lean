import Reformat.Text.Utf8

/-!
What a shell script says: words with the parameters and commands that they hold, redirections, and
commands. A shell sees bytes; in the text of a script each stands as the character of its number.
-/

namespace Reformat

namespace Utf8

/-- Bytes as characters of the same numbers. -/
def octets (bytes : Bytes) : Text :=
  bytes.map fun byte => Char.ofNat byte.toNat

def ofOctets (text : Text) : Bytes :=
  text.map fun c => UInt8.ofNat c.toNat

end Utf8

namespace Shell

/-- What is made of the value of a parameter. Where `orEmpty` is set, an empty value counts as
none. -/
inductive Modifier where
  | plain
  | length
  | fallback (orEmpty : Bool)
  | assign (orEmpty : Bool)
  | demand (orEmpty : Bool)
  | alternative (orEmpty : Bool)
  | trimFront (longest : Bool)
  | trimBack (longest : Bool)
  | invalid
deriving DecidableEq, Repr

/-- What a redirection does with a descriptor. -/
inductive Direction where
  | input
  | output
  /-- Writes over a file even where files are to be kept. -/
  | replace
  | append
  | both
  | copy
deriving DecidableEq, Repr

mutual

/-- A piece of a word. -/
inductive Part where
  | text (value : Text) (quoted : Bool)
  | parameter (name : Text) (modifier : Modifier) (argument : List Part) (quoted : Bool)
  /-- The output of a command. -/
  | output (body : Command) (quoted : Bool)
  | arithmetic (expression : List Part) (quoted : Bool)

inductive Redirection where
  | file (descriptor : Nat) (direction : Direction) (target : List Part)
  /-- Reads from a text that the script holds, which is kept under a number. -/
  | document (descriptor number : Nat)

inductive Command where
  | nothing
  | simple (line : Nat) (assignments : List (Text × List Part)) (words : List (List Part))
      (redirections : List Redirection)
  | pipeline (negated : Bool) (stages : List Command)
  /-- The second one runs if the first one succeeds, or fails where `onFailure` is set. -/
  | either (onFailure : Bool) (first second : Command)
  | sequence (first second : Command)
  | background (body : Command)
  | subshell (line : Nat) (body : Command)
  | conditional (test positive negative : Command)
  /-- Repeats the body for as long as the test succeeds, or fails where `onFailure` is set. -/
  | loop (onFailure : Bool) (test body : Command)
  /-- Runs the body for each field of the words, or for each parameter of the script. -/
  | each (line : Nat) (name : Text) (words : Option (List (List Part))) (body : Command)
  | choice (line : Nat) (subject : List Part) (branches : List (List (List Part) × Command))
  | define (name : Text) (body : Command)
  | redirected (line : Nat) (body : Command) (redirections : List Redirection)

end

abbrev Word := List Part

def Redirection.descriptor : Redirection → Nat
  | file descriptor _ _ => descriptor
  | document descriptor _ => descriptor

def isNameStart (c : Char) : Bool :=
  c.isAlpha || c == '_'

def isNameChar (c : Char) : Bool :=
  c.isAlphanum || c == '_'

/-- The commands of the shell that no function can stand for. An error in one ends the shell. -/
def specialNames : List Text :=
  [".", ":", "break", "continue", "eval", "exec", "exit", "export", "local", "readonly", "return",
    "set", "shift", "trap", "unset"].map String.toList

/-- Whether a text is the name of a variable. -/
def isName (text : Text) : Bool :=
  text.head?.any isNameStart && text.all isNameChar

end Shell

end Reformat
