import Reformat.Text.CharRef.Named
import Reformat.Text.Utf8

/-!
Character references: `&name;`, `&#decimal;` and `&#xhexadecimal;`. Decoding replaces the references
that stand for something and leaves every other character in place; its result is not decoded again.
-/

namespace Reformat.Text.CharRef

/-- The numbers a reference may give: those of characters, less the controls that no document may
hold. -/
def ofNumber? (n : Nat) : Option Text :=
  if n < 0x20 ∧ n ≠ 0x09 ∧ n ≠ 0x0A ∧ n ≠ 0x0C ∧ n ≠ 0x0D then
    none
  else if n.isValidChar then
    some [Char.ofNat n]
  else
    none

def hexDigit? (c : Char) : Option Nat :=
  if c.isDigit then some (c.toNat - '0'.toNat)
  else if 'a' ≤ c ∧ c ≤ 'f' then some (c.toNat - 'a'.toNat + 10)
  else if 'A' ≤ c ∧ c ≤ 'F' then some (c.toNat - 'A'.toNat + 10)
  else none

def decimalDigit? (c : Char) : Option Nat :=
  if c.isDigit then some (c.toNat - '0'.toNat) else none

/-- The number that digits of a base write, if there is at least one and each is a digit. -/
def number? (base : Nat) (digit? : Char → Option Nat) (digits : Text) : Option Nat :=
  if digits.isEmpty then
    none
  else
    digits.foldl (fun sum c => do return (← sum) * base + (← digit? c)) (some 0)

def ofName? (name : Text) : Option Text :=
  (names.find? fun entry => entry.1.toList == name).map fun entry => [Char.ofNat entry.2]

/-- What stands between the ampersand and the semicolon of a reference. -/
def resolve? : Text → Option Text
  | '#' :: 'x' :: digits => number? 16 hexDigit? digits >>= ofNumber?
  | '#' :: 'X' :: digits => number? 16 hexDigit? digits >>= ofNumber?
  | '#' :: digits => number? 10 decimalDigit? digits >>= ofNumber?
  | name => ofName? name

/-- Decodes with the characters since the last ampersand in hand, while no semicolon follows it. -/
def decodeFrom : Option Text → Text → Text
  | none, [] => []
  | some held, [] => '&' :: held
  | none, c :: rest =>
      if c = '&' then decodeFrom (some []) rest else c :: decodeFrom none rest
  | some held, c :: rest =>
      if c = '&' then
        '&' :: held ++ decodeFrom (some []) rest
      else if c = ';' then
        (resolve? held).getD ('&' :: held ++ [';']) ++ decodeFrom none rest
      else
        decodeFrom (some (held ++ [c])) rest

def decode (text : Text) : Text :=
  decodeFrom none text

/-- Text without an ampersand stands for itself. -/
theorem decode_eq_self {text : Text} (plain : '&' ∉ text) : decode text = text := by
  unfold decode
  induction text with
  | nil => rfl
  | cons head tail ih =>
      simp only [List.mem_cons, not_or] at plain
      have different : head ≠ '&' := fun equality => plain.1 equality.symm
      simp [decodeFrom, different, ih plain.2]

end Reformat.Text.CharRef
