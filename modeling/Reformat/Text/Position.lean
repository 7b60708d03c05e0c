import Reformat.Text.Utf8

/-!
Lines and columns. A line ends with LF, VT, FF, CR, NEL, LS or PS; a CR directly before an LF does
not end one, so that CRLF ends one line, behind its LF.
-/

namespace Reformat.Text

def isBreak (c : Char) : Bool :=
  (0x0A ≤ c.toNat && c.toNat ≤ 0x0D) || c.toNat == 0x85 || c.toNat == 0x2028 ||
    c.toNat == 0x2029

/-- Whether a character ends a line, given the text behind it. -/
def endsLine (c : Char) (rest : Text) : Bool :=
  isBreak c && !(c == '\r' && rest.head? == some '\n')

/-- The number of lines, which is one more than that of the line ends. -/
def lineCount : Text → Nat
  | [] => 1
  | c :: rest => if endsLine c rest then 1 + lineCount rest else lineCount rest

/-- A place in a text: lines and the characters in the line, both counted from zero. -/
structure Position where
  line : Nat
  column : Nat
deriving DecidableEq, Repr

def Position.next (position : Position) (c : Char) (rest : Text) : Position :=
  if endsLine c rest then ⟨position.line + 1, 0⟩ else ⟨position.line, position.column + 1⟩

/-- The place reached from `start` after a number of characters, or at the end of a shorter text. -/
def Position.walk (start : Position) : Text → Nat → Position
  | [], _ => start
  | _ :: _, 0 => start
  | c :: rest, count + 1 => (start.next c rest).walk rest count

def position (text : Text) (index : Nat) : Position :=
  Position.walk ⟨0, 0⟩ text index

end Reformat.Text
