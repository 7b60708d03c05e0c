import Reformat.Shell.Number

/-!
Numbers with a point, held in 64 bits: how they are read, and how they are written: with places behind
the point, with an exponent of ten, or in the shorter of these ways.
-/

namespace Reformat.Shell

inductive Floating where
  /-- A whole number times a power of two. -/
  | finite (isNegative : Bool) (mantissa : Nat) (exponent : Int)
  | infinite (isNegative : Bool)
  | notANumber (isNegative : Bool)
deriving DecidableEq, Repr

namespace Floating

/-- The bits of a mantissa. -/
def bits : Nat :=
  53

/-- The least exponent. -/
def least : Int :=
  -1074

/-- The power of two that is too much. -/
def bound : Nat :=
  1024

def zero : Floating :=
  .finite false 0 0

def isNegative : Floating → Bool
  | finite isNegative _ _ => isNegative
  | infinite isNegative => isNegative
  | notANumber isNegative => isNegative

/-- A quotient rounded to the nearest whole number, a half to the even one. -/
def roundQuotient (numerator denominator : Nat) : Nat :=
  let quotient := numerator / denominator
  let twice := 2 * (numerator % denominator)
  if denominator < twice ∨ (twice = denominator ∧ quotient % 2 = 1) then
    quotient + 1
  else
    quotient

/-- A quotient as it is held, and whether it is out of range: too much, or too little to be told
exactly. -/
def ofQuotient (isNegative : Bool) (numerator denominator : Nat) : Floating × Bool :=
  if numerator = 0 then
    (.finite isNegative 0 0, false)
  else
    let scaled (exponent : Int) : Nat × Nat :=
      (numerator * Nat.pow 2 (-exponent).toNat, denominator * Nat.pow 2 exponent.toNat)
    let guess : Int := (numerator.log2 : Int) - denominator.log2 - (bits - 1)
    let (above, below) := scaled guess
    let exponent := max least
      (if above / below < Nat.pow 2 (bits - 1) then guess - 1 else guess)
    let (above, below) := scaled exponent
    let mantissa := roundQuotient above below
    if bound ≤ mantissa.log2 + exponent then
      (.infinite isNegative, true)
    else
      let isTiny := mantissa < Nat.pow 2 (bits - 1)
      (.finite isNegative mantissa exponent, isTiny && above % below ≠ 0)

/-- The number that digits in a base stand for, times a power of a number. What is far too much or too
little is not computed. -/
def ofDigits (isNegative : Bool) (base root : Nat) (digits : Text) (power : Int) :
    Floating × Bool :=
  let significant := digits.dropWhile (· = '0')
  let size := if base = 16 then 4 * significant.length else significant.length
  if significant.isEmpty then
    (.finite isNegative 0 0, false)
  else if 20000 < size + power then
    (.infinite isNegative, true)
  else if size + power < -20000 then
    (.finite isNegative 0 0, true)
  else
    ofQuotient isNegative (Number.ofDigits base significant * Nat.pow root power.toNat)
      (Nat.pow root (-power).toNat)

/-- The digits at the front of a text, before and behind a point, and what follows them. -/
def places (base : Nat) (text : Text) : Text × Text × Text :=
  let whole := text.takeWhile (Number.isDigit base)
  match text.drop whole.length with
  | '.' :: rest =>
      (whole, rest.takeWhile (Number.isDigit base), rest.dropWhile (Number.isDigit base))
  | rest => (whole, [], rest)

/-- An exponent behind its mark, if there is one, and what follows. -/
def exponentOf (mark : Char) (text : Text) : Int × Text :=
  match text with
  | c :: rest =>
      let (isNegative, digits) := Number.signOf rest
      match digits.takeWhile Char.isDigit with
      | [] => (0, text)
      | own =>
          let size : Int := (Number.ofDigits 10 own : Nat)
          if c.toLower = mark then
            (if isNegative then -size else size, digits.drop own.length)
          else
            (0, text)
  | [] => (0, text)

/-- A number in digits at the front of a text, whether it is out of range, and what follows it. -/
def ofText? (isNegative : Bool) (base : Nat) (text : Text) : Option (Floating × Bool × Text) :=
  let (whole, fraction, rest) := places base text
  if whole.isEmpty && fraction.isEmpty then
    none
  else
    let (exponent, rest) := exponentOf (if base = 16 then 'p' else 'e') rest
    let root := if base = 16 then 2 else 10
    let shift : Int := if base = 16 then 4 * fraction.length else fraction.length
    let (value, outOfRange) :=
      ofDigits isNegative base root (whole ++ fraction) (exponent - shift)
    some (value, outOfRange, rest)

/-- What follows a word at the front of a text, in letters of any case. -/
def behind? (word : String) (text : Text) : Option Text :=
  let length := word.toList.length
  if (text.take length).map Char.toLower == word.toList then some (text.drop length) else none

/-- What may follow the word for what is no number: something in parentheses. -/
def behindRemark (text : Text) : Text :=
  match text with
  | '(' :: rest =>
      match rest.dropWhile fun c => c.isAlphanum || c = '_' with
      | ')' :: more => more
      | _ => text
  | _ => text

/-- The number at the front of a text, which blanks and a sign may precede, whether it is out of range,
and what follows it. -/
def read? (text : Text) : Option (Floating × Bool × Text) :=
  let (isNegative, text) := Number.signOf (text.dropWhile Number.isBlank)
  match behind? "infinity" text, behind? "inf" text, behind? "nan" text with
  | some rest, _, _ => some (.infinite isNegative, false, rest)
  | none, some rest, _ => some (.infinite isNegative, false, rest)
  | none, none, some rest => some (.notANumber isNegative, false, behindRemark rest)
  | none, none, none =>
      match (behind? "0x" text).bind (ofText? isNegative 16) with
      | some number => some number
      | none => ofText? isNegative 10 text

/-! ## Writing -/

/-- More digits than any number has. -/
def mostDigits : Nat :=
  25000

/-- A quotient with a number of places behind the point, of which the last ones are zeros if they are
more than any number has. -/
def fixed (numerator denominator places : Nat) (keepsPoint : Bool) : Text :=
  let shown := min places mostDigits
  let digits := Nat.toDigits 10 (roundQuotient (numerator * Nat.pow 10 shown) denominator)
  let digits := List.replicate (shown + 1 - digits.length) '0' ++ digits
  let whole := digits.take (digits.length - shown)
  if places = 0 && !keepsPoint then
    whole
  else
    whole ++ '.' :: digits.drop (digits.length - shown) ++ List.replicate (places - shown) '0'

/-- The exponent of ten of a quotient that is not zero. -/
def decimalExponent (numerator denominator : Nat) : Int :=
  let guess : Int := (Nat.toDigits 10 numerator).length - (Nat.toDigits 10 denominator).length
  if Nat.pow 10 guess.toNat * denominator ≤ Nat.pow 10 (-guess).toNat * numerator then guess
  else guess - 1

/-- The digits of a quotient, one in front of the point and a number of places behind it, and the
exponent of ten. -/
def rounded (numerator denominator places : Nat) : Nat × Int :=
  if numerator = 0 then
    (0, 0)
  else
    let exponent := decimalExponent numerator denominator
    let shift := (places : Int) - exponent
    let mantissa :=
      roundQuotient (numerator * Nat.pow 10 shift.toNat) (denominator * Nat.pow 10 (-shift).toNat)
    if Nat.pow 10 (places + 1) ≤ mantissa then (mantissa / 10, exponent + 1)
    else (mantissa, exponent)

def writeExponent (exponent : Int) : Text :=
  let digits := Nat.toDigits 10 exponent.natAbs
  'e' :: (if exponent < 0 then '-' else '+') ::
    (List.replicate (2 - digits.length) '0' ++ digits)

def withoutZeros (text : Text) : Text :=
  if text.contains '.' then
    let trimmed := (text.reverse.dropWhile (· = '0')).reverse
    if trimmed.getLast? = some '.' then trimmed.dropLast else trimmed
  else
    text

def scientific (numerator denominator places : Nat) (keepsPoint : Bool) : Text :=
  let shown := min places mostDigits
  let (mantissa, exponent) := rounded numerator denominator shown
  fixed mantissa (Nat.pow 10 shown) places keepsPoint ++ writeExponent exponent

def general (numerator denominator precision : Nat) (keepsPoint : Bool) : Text :=
  let precision := min (max precision 1) mostDigits
  let (_, exponent) := rounded numerator denominator (precision - 1)
  let trim := if keepsPoint then id else withoutZeros
  if -4 ≤ exponent ∧ exponent < precision then
    let places := ((precision : Int) - 1 - exponent).toNat
    trim (fixed numerator denominator places keepsPoint)
  else
    let (mantissa, _) := rounded numerator denominator (precision - 1)
    trim (fixed mantissa (Nat.pow 10 (precision - 1)) (precision - 1) keepsPoint) ++
      writeExponent exponent

end Floating

end Reformat.Shell
