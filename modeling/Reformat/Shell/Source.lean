import Reformat.Shell.Command

/-!
A script while it is read, one character after the other. Lines are joined where a backslash ends
one.
-/

namespace Reformat.Shell

inductive Token where
  | word (parts : Word)
  /-- A word that has a meaning of its own where it stands. -/
  | reserved (name : Text)
  | operator (text : Text)
  | redirection (descriptor : Option Nat) (mark : Text)
  | newline
  | finish

def reservedWords : List Text :=
  ["!", "\x7b", "\x7d", "case", "do", "done", "elif", "else", "esac", "fi", "for", "if", "in",
    "then", "until", "while"].map String.toList

def quotedName (name : Text) : Text :=
  '"' :: name ++ ['"']

/-- How a token is called where it is not expected. -/
def Token.description : Token → Text
  | word _ => "word".toList
  | reserved name => quotedName name
  | operator text => quotedName text
  | redirection _ _ => "redirection".toList
  | newline => "newline".toList
  | finish => "end of file".toList

/-- A document that begins behind the end of the line. -/
structure Announced where
  number : Nat
  delimiter : Text
  withoutTabs : Bool
  literal : Bool

structure Source where
  rest : Text
  line : Nat
  /-- A token that has been read, but not used. -/
  held : Option Token
  announced : List Announced
  /-- The documents that have been read, by their numbers. -/
  documents : List (Nat × Word)
  /-- The number of the next document. -/
  number : Nat
  /-- Whether the document at hand has come to its delimiter. -/
  closed : Bool

/-- A script of which the first line and the first document have numbers. -/
def Source.ofText (text : Text) (line number : Nat) : Source :=
  ⟨text, line, none, [], [], number, false⟩

/-- Why a script cannot be read on, and on which line. -/
structure Misreading where
  line : Nat
  message : Text

abbrev Reader := StateT Source (Except Misreading)

/-- The text without the ends of lines that are joined with the next ones, and the number of the
line on which it then begins. -/
def joined (line : Nat) : Text → Text × Nat
  | '\\' :: '\n' :: rest => joined (line + 1) rest
  | text => (text, line)

namespace Reader

/-- The next character. -/
def peek : Reader (Option Char) := do
  let source ← get
  if source.closed then
    return none
  let (rest, line) := joined source.line source.rest
  set { source with rest := rest, line := line }
  return rest.head?

def drop : Reader Unit :=
  modify fun source => { source with rest := source.rest.drop 1 }

def dropIf (c : Char) : Reader Bool := do
  if (← peek) = some c then
    drop
    return true
  return false

/-- The characters in front of the first one that is not of a kind. -/
def span (isKind : Char → Bool) : Nat → Reader Text
  | 0 => return []
  | fuel + 1 => do
      match ← peek with
      | some c =>
          if isKind c then
            drop
            return c :: (← span isKind fuel)
          return []
      | none => return []

def nextLine : Reader Unit :=
  modify fun source => { source with line := source.line + 1 }

/-- Gives up on the script. -/
def misread {α : Type} (message : Text) : Reader α := do
  throw ⟨(← get).line, message⟩

/-- Refuses a token; `expected` tells which one must stand there. -/
def refuse {α : Type} (token : Token) (expected : Option Text) : Reader α :=
  let hint :=
    match expected with
    | none => []
    | some name => " (expecting ".toList ++ name ++ [')']
  misread (token.description ++ " unexpected".toList ++ hint)

/-- Reads another text as if it stood alone, but behind the token that is held. -/
def within {α : Type} (text : Text) (reader : Reader α) : Reader α := do
  let outer ← get
  set { Source.ofText text 1 outer.number with
    held := outer.held, documents := outer.documents }
  let value ← reader
  let inner ← get
  set { outer with held := none, documents := inner.documents, number := inner.number }
  return value

def hold (token : Token) : Reader Unit :=
  modify fun source => { source with held := some token }

/-- The token that was held, which must be there. -/
def takeHeld : Reader Token := do
  let source ← get
  set { source with held := none }
  return source.held.getD .finish

end Reader

end Reformat.Shell
