import Reformat.Shell.Command
import Reformat.Shell.Number

/-!
Arithmetic in scripts: whole numbers of 64 bits with the usual operators, and variables that may be
assigned. What a condition passes over is read, but neither looked up nor assigned nor computed.
-/

namespace Reformat.Shell.Arithmetic

inductive Failure where
  | expected (what : Text)
  | divisionByZero
  /-- The least number has been divided by minus one, which ends the shell by a signal. -/
  | overflow
  | illegalNumber (text : Text)
deriving DecidableEq, Repr

/-- The message about an expression. -/
def Failure.message (expression : Text) : Failure → Text
  | overflow => []
  | expected what =>
      "arithmetic expression: expecting ".toList ++ what ++ ": \"".toList ++ expression ++ ['"']
  | divisionByZero =>
      "arithmetic expression: division by zero: \"".toList ++ expression ++ ['"']
  | illegalNumber text => "Illegal number: ".toList ++ text

/-- The number that 64 bits hold of a whole number. -/
def wrap (value : Int) : Int :=
  Int.bmod value UInt64.size

def write (value : Int) : Text :=
  (toString value).toList

inductive Token where
  | number (value : Int)
  | name (name : Text)
  | operator (text : Text)
  | finish
deriving DecidableEq, Repr

def operators : List Text :=
  ["<<=", ">>=", "<<", ">>", "<=", ">=", "==", "!=", "&&", "||", "+=", "-=", "*=", "/=", "%=", "&=",
    "^=", "|=", "+", "-", "*", "/", "%", "<", ">", "=", "!", "~", "&", "^", "|", "?", ":", "(",
    ")"].map String.toList

def isPrefix (mark text : Text) : Bool :=
  text.take mark.length == mark

/-- The first token of a text, and what follows it. -/
def token (text : Text) : Token × Text :=
  let text := text.dropWhile fun c => c ∈ [' ', '\t', '\n']
  match text with
  | [] => (.finish, [])
  | c :: _ =>
      if isNameStart c then
        (.name (text.takeWhile isNameChar), text.dropWhile isNameChar)
      else
        match Number.unsigned? none text with
        | some (value, rest) => (.number (Number.clamp value), rest)
        | none =>
            match operators.find? (isPrefix · text) with
            | some operator => (.operator operator, text.drop operator.length)
            | none => (.finish, text)

/-- The rest of an expression, and the variables as they are then. -/
structure State where
  rest : Text
  bindings : List (Text × Text)

/-- What has been assigned stays assigned where an expression fails. -/
abbrev Evaluation := ExceptT Failure (StateM State)

namespace Evaluation

def peek : Evaluation Token := do
  return (token (← get).rest).1

def skip : Evaluation Unit :=
  modify fun state => { state with rest := (token state.rest).2 }

/-- Takes the token at hand if it is the operator. -/
def take? (operator : String) : Evaluation Bool := do
  if (← peek) = .operator operator.toList then
    skip
    return true
  return false

/-- The number that a variable holds. None and blanks count as zero. -/
def valueOf (name : Text) : Evaluation Int := do
  match (← get).bindings.lookup name with
  | none => return 0
  | some text =>
      if text.all Number.isBlank then
        return 0
      match Number.whole? none text with
      | some value => return value
      | none => throw (.illegalNumber text)

def assign (name : Text) (value : Int) : Evaluation Unit :=
  modify fun state => { state with bindings := (name, write value) :: state.bindings }

def ofBool (holds : Bool) : Int :=
  if holds then 1 else 0

/-- A quotient, or a remainder, of which the divisor may not be zero. -/
def divide (left right : Int) (quotient : Int) : Evaluation Int :=
  if right = 0 then
    throw .divisionByZero
  else if right = -1 ∧ left = -(UInt64.size / 2 : Nat) then
    throw .overflow
  else
    return quotient

/-- What an operator makes of two numbers. -/
def combine (operator : Text) (left right : Int) : Evaluation Int := do
  let bits (f : UInt64 → UInt64 → UInt64) : Int :=
    wrap ((f (UInt64.ofInt left) (UInt64.ofInt right)).toNat : Int)
  match String.ofList operator with
  | "*" => return wrap (left * right)
  | "/" => divide left right (left.tdiv right)
  | "%" => divide left right (left.tmod right)
  | "+" => return wrap (left + right)
  | "-" => return wrap (left - right)
  | "<<" => return wrap (left * (Nat.shiftLeft 1 (right.emod 64).toNat : Nat))
  | ">>" => return left.shiftRight (right.emod 64).toNat
  | "<" => return ofBool (left < right)
  | "<=" => return ofBool (left ≤ right)
  | ">" => return ofBool (left > right)
  | ">=" => return ofBool (left ≥ right)
  | "==" => return ofBool (left = right)
  | "!=" => return ofBool (left ≠ right)
  | "&" => return bits (· &&& ·)
  | "^" => return bits (· ^^^ ·)
  | "|" => return bits (· ||| ·)
  | _ => return right

/-- The operators between two numbers, those that bind most first. -/
def levels : List (List String) :=
  [["*", "/", "%"], ["+", "-"], ["<<", ">>"], ["<", "<=", ">", ">="], ["==", "!="], ["&"], ["^"],
    ["|"]]

def assignments : List String :=
  ["=", "+=", "-=", "*=", "/=", "%=", "<<=", ">>=", "&=", "^=", "|="]

mutual

def expression : Nat → Bool → Evaluation Int
  | 0, _ => throw (.expected "primary".toList)
  | fuel + 1, active => do
      let state ← get
      match ← peek with
      | .name name =>
          skip
          match ← peek with
          | .operator operator =>
              if assignments.contains (String.ofList operator) then
                skip
                let right ← expression fuel active
                if !active then
                  return right
                let value ←
                  if operator == ['='] then
                    pure right
                  else
                    combine (operator.take (operator.length - 1)) (← valueOf name) right
                assign name value
                return value
              set state
              conditional fuel active
          | _ =>
              set state
              conditional fuel active
      | _ => conditional fuel active

def conditional : Nat → Bool → Evaluation Int
  | 0, _ => throw (.expected "primary".toList)
  | fuel + 1, active => do
      let test ← disjunction fuel active
      if ← take? "?" then
        let positive ← expression fuel (active && test ≠ 0)
        if !(← take? ":") then
          throw (.expected "':'".toList)
        let negative ← conditional fuel (active && test = 0)
        return if test ≠ 0 then positive else negative
      return test

def disjunction : Nat → Bool → Evaluation Int
  | 0, _ => throw (.expected "primary".toList)
  | fuel + 1, active => do
      let left ← conjunction fuel active
      if ← take? "||" then
        let right ← disjunction fuel (active && left = 0)
        return ofBool (left ≠ 0 || right ≠ 0)
      return left

def conjunction : Nat → Bool → Evaluation Int
  | 0, _ => throw (.expected "primary".toList)
  | fuel + 1, active => do
      let left ← level fuel active levels.reverse
      if ← take? "&&" then
        let right ← conjunction fuel (active && left ≠ 0)
        return ofBool (left ≠ 0 && right ≠ 0)
      return left

/-- An expression of operators that bind at least as much as those of the first level. -/
def level : Nat → Bool → List (List String) → Evaluation Int
  | 0, _, _ => throw (.expected "primary".toList)
  | fuel + 1, active, [] => unary fuel active
  | fuel + 1, active, own :: tighter => do
      levelRest fuel active own tighter (← level fuel active tighter)

def levelRest : Nat → Bool → List String → List (List String) → Int → Evaluation Int
  | 0, _, _, _, left => return left
  | fuel + 1, active, own, tighter, left => do
      match ← peek with
      | .operator operator =>
          if own.contains (String.ofList operator) then
            skip
            let right ← level fuel active tighter
            let value ← if active then combine operator left right else pure right
            levelRest fuel active own tighter value
          else
            return left
      | _ => return left

def unary : Nat → Bool → Evaluation Int
  | 0, _ => throw (.expected "primary".toList)
  | fuel + 1, active => do
      match ← peek with
      | .number value =>
          skip
          return value
      | .name name =>
          skip
          if active then valueOf name else return 0
      | .operator ['('] =>
          skip
          let value ← expression fuel active
          if !(← take? ")") then
            throw (.expected "')'".toList)
          return value
      | .operator ['-'] =>
          skip
          return wrap (-(← unary fuel active))
      | .operator ['+'] =>
          skip
          unary fuel active
      | .operator ['!'] =>
          skip
          return ofBool ((← unary fuel active) = 0)
      | .operator ['~'] =>
          skip
          return -(← unary fuel active) - 1
      | _ => throw (.expected "primary".toList)

end

end Evaluation

/-- The value of an expression, and the variables after it. -/
def evaluate (bindings : List (Text × Text)) (text : Text) :
    Except Failure Int × List (Text × Text) :=
  let whole : Evaluation Int := do
    let value ← Evaluation.expression (40 * text.length + 40) true
    if (← get).rest.all fun c => c ∈ [' ', '\t', '\n'] then
      return value
    throw (.expected "EOF".toList)
  let (result, state) := whole.run.run ⟨text, bindings⟩
  (result, state.bindings)

end Reformat.Shell.Arithmetic
