import Reformat.Text.Decimal

/-!
Whole numbers at the fronts of texts, in a base that is given or that the text tells itself: octal
behind a zero, hexadecimal behind `0x`, binary behind `0b`.
-/

namespace Reformat.Shell.Number

/-- The characters that may stand around a number. -/
def isBlank (c : Char) : Bool :=
  c = ' ' || ('\t' ≤ c && c ≤ '\r')

def digitValue (c : Char) : Nat :=
  if c.isDigit then c.toNat - '0'.toNat
  else if 'a' ≤ c ∧ c ≤ 'z' then c.toNat - 'a'.toNat + 10
  else if 'A' ≤ c ∧ c ≤ 'Z' then c.toNat - 'A'.toNat + 10
  else 99

def isDigit (base : Nat) (c : Char) : Bool :=
  digitValue c < base

def ofDigits (base : Nat) (digits : Text) : Nat :=
  digits.foldl (fun value c => value * base + digitValue c) 0

/-- The base that a text tells, and its digits with what follows them. -/
def baseOf (text : Text) : Nat × Text :=
  match text with
  | '0' :: mark :: c :: rest =>
      if (mark = 'x' || mark = 'X') && isDigit 16 c then (16, c :: rest)
      else if (mark = 'b' || mark = 'B') && isDigit 2 c then (2, c :: rest)
      else (8, text)
  | '0' :: _ => (8, text)
  | _ => (10, text)

/-- The number at the front of a text, and what follows it. -/
def unsigned? (base : Option Nat) (text : Text) : Option (Nat × Text) :=
  let (base, text) :=
    match base with
    | some base => (base, text)
    | none => baseOf text
  match text.takeWhile (isDigit base) with
  | [] => none
  | digits => some (ofDigits base digits, text.drop digits.length)

/-- Whether a sign in front of a text makes it negative, and what follows the sign. -/
def signOf : Text → Bool × Text
  | '-' :: rest => (true, rest)
  | '+' :: rest => (false, rest)
  | text => (false, text)

/-- The number at the front of a text, which blanks and a sign may precede, and what follows it. -/
def signed? (base : Option Nat) (text : Text) : Option (Int × Text) :=
  let (isNegative, digits) := signOf (text.dropWhile isBlank)
  (unsigned? base digits).map fun (size, rest) =>
    (if isNegative then -(size : Int) else size, rest)

def least : Int :=
  -(UInt64.size / 2 : Nat)

def greatest : Int :=
  (UInt64.size / 2 - 1 : Nat)

/-- Whether 64 bits hold a number, one of them as its sign. -/
def isWord (value : Int) : Bool :=
  least ≤ value && value ≤ greatest

/-- The number of 64 bits that is next to a whole number. -/
def clamp (value : Int) : Int :=
  max least (min value greatest)

/-- The number that is a whole text, but for blanks around it. -/
def whole? (base : Option Nat) (text : Text) : Option Int :=
  match signed? base text with
  | some (value, rest) => if rest.all isBlank && isWord value then some value else none
  | none => none

end Reformat.Shell.Number
