import Reformat.Shell.Mode
import Reformat.Shell.Number

/-!
Conditions on texts, numbers and files, as `test` is given them in words.
-/

namespace Reformat.Shell.Condition

inductive Failure where
  | unexpected (word : Text)
  | noArgument (operator : Text)
  | noParenthesis
  | illegalNumber (text : Text)
deriving DecidableEq, Repr

def Failure.message : Failure → Text
  | unexpected word =>
      (if word.isEmpty then [] else word ++ ": ".toList) ++ "unexpected operator".toList
  | noArgument operator => operator ++ ": argument expected".toList
  | noParenthesis => "closing paren expected".toList
  | illegalNumber text => "Illegal number: ".toList ++ text

inductive Kind where
  | file (isEmpty : Bool)
  | directory
  | device
  | pipe
deriving DecidableEq, Repr

/-- What a path names: its kind, its permissions, and what makes it the same as what another path
names. -/
structure Entry where
  kind : Kind
  mode : Mode
  identity : Text
deriving DecidableEq, Repr

/-- What paths name, as far as conditions may ask. -/
abbrev Surroundings :=
  Text → Option Entry

def unaryOperators : List Text :=
  ["-r", "-w", "-x", "-e", "-f", "-d", "-c", "-b", "-p", "-u", "-g", "-k", "-s", "-t", "-z", "-n",
    "-h", "-O", "-G", "-L", "-S"].map String.toList

def binaryOperators : List Text :=
  ["=", "!=", "<", ">", "-eq", "-ne", "-ge", "-gt", "-le", "-lt", "-nt", "-ot",
    "-ef"].map String.toList

/-- How a word is taken where an expression may begin. -/
inductive Role where
  | finish
  | operand
  | unary
  | binary
  | negation
  | conjunction
  | disjunction
  | opening
  | closing
deriving DecidableEq, Repr

/-- The role of the first of some words, which depends on those behind it. -/
def role : List Text → Role
  | [] => .finish
  | word :: behind =>
      let isOperand : Bool :=
        match behind with
        | [] => true
        | [_] => false
        | next :: _ => binaryOperators.contains next
      if unaryOperators.contains word then
        if isOperand then .operand else .unary
      else if binaryOperators.contains word then .binary
      else if word == ['!'] then .negation
      else if word == "-a".toList then .conjunction
      else if word == "-o".toList then .disjunction
      else if word == ['('] then
        if behind.isEmpty then .operand else .opening
      else if word == [')'] then .closing
      else .operand

/-- A decimal number between blanks. -/
def number (text : Text) : Except Failure Int :=
  match Number.whole? (some 10) text with
  | some value => .ok value
  | none => .error (.illegalNumber text)

/-- Whether what a path names is as an operator asks. Whoever asks may read and write everything, and
run whatever anyone may run. -/
def Entry.satisfies (entry : Entry) (operator : Text) : Bool :=
  match String.ofList operator with
  | "-f" => (entry.kind matches .file _)
  | "-d" => entry.kind == .directory
  | "-c" => entry.kind == .device
  | "-p" => entry.kind == .pipe
  | "-s" => entry.kind == .file false || entry.kind == .directory
  | "-x" => entry.kind == .directory || Mode.isRunnable entry.mode
  | other => ["-e", "-r", "-w", "-O", "-G"].contains other

def testUnary (surroundings : Surroundings) (operator operand : Text) : Except Failure Bool := do
  match String.ofList operator with
  | "-z" => return operand.isEmpty
  | "-n" => return !operand.isEmpty
  | "-t" => do
      let _ ← number operand
      return false
  | _ => return (surroundings operand).any (·.satisfies operator)

/-- Whether two paths name the same. Nothing is known of times, so that nothing is newer or older than
anything else. -/
def compareEntries (surroundings : Surroundings) (left operator right : Text) : Bool :=
  match surroundings left, surroundings right with
  | some first, some second =>
      operator == "-ef".toList && first.identity == second.identity
  | _, _ => false

def compare (surroundings : Surroundings) (left operator right : Text) : Except Failure Bool := do
  match String.ofList operator with
  | "=" => return left == right
  | "==" => return left == right
  | "!=" => return left != right
  | "<" => return left < right
  | ">" => return right < left
  | "-eq" => return (← number left) = (← number right)
  | "-ne" => return (← number left) ≠ (← number right)
  | "-ge" => return (← number left) ≥ (← number right)
  | "-gt" => return (← number left) > (← number right)
  | "-le" => return (← number left) ≤ (← number right)
  | "-lt" => return (← number left) < (← number right)
  | _ => return compareEntries surroundings left operator right

/-- Whether an expression holds, and the words from the last one on that it has taken. -/
abbrev Verdict := Except Failure (Bool × List Text)

mutual

def disjunction (surroundings : Surroundings) : Nat → Role → List Text → Verdict
  | 0, _, words => return (false, words)
  | fuel + 1, first, words => do
      let (holds, last) ← conjunction surroundings fuel first words
      if role (last.drop 1) = .disjunction then
        let (other, last) ←
          disjunction surroundings fuel (role (last.drop 2)) (last.drop 2)
        return (other || holds, last)
      return (holds, last)

def conjunction (surroundings : Surroundings) : Nat → Role → List Text → Verdict
  | 0, _, words => return (false, words)
  | fuel + 1, first, words => do
      let (holds, last) ← negation surroundings fuel first words
      if role (last.drop 1) = .conjunction then
        let (other, last) ←
          conjunction surroundings fuel (role (last.drop 2)) (last.drop 2)
        return (other && holds, last)
      return (holds, last)

def negation (surroundings : Surroundings) : Nat → Role → List Text → Verdict
  | 0, _, words => return (false, words)
  | fuel + 1, first, words => do
      if first ≠ .negation then
        return ← primary surroundings fuel first words
      let next := role (words.drop 1)
      let (holds, last) ←
        negation surroundings fuel next (if next = .finish then words else words.drop 1)
      return (!holds, last)

def primary (surroundings : Surroundings) : Nat → Role → List Text → Verdict
  | 0, _, words => return (false, words)
  | fuel + 1, first, words => do
      match first, words with
      | .finish, _ => return (false, words)
      | .opening, _ =>
          let next := role (words.drop 1)
          if next = .closing then
            return (false, words.drop 1)
          let (holds, last) ← disjunction surroundings fuel next (words.drop 1)
          if role (last.drop 1) ≠ .closing then
            throw .noParenthesis
          return (holds, last.drop 1)
      | .unary, operator :: behind =>
          match behind with
          | [] => throw (.noArgument operator)
          | operand :: _ => return (← testUnary surroundings operator operand, behind)
      | _, left :: behind =>
          if role behind = .binary then
            match behind with
            | operator :: right :: more =>
                return (← compare surroundings left operator right, right :: more)
            | operator :: [] => throw (.noArgument operator)
            | [] => return (!left.isEmpty, words)
          else
            return (!left.isEmpty, words)
      | _, [] => return (false, words)

end

def evaluateWithin (surroundings : Surroundings) : Nat → List Text → Except Failure Bool
  | 0, _ => return false
  | fuel + 1, words => do
      let whole (first : Role) (words : List Text) : Except Failure Bool := do
        let (holds, last) ← disjunction surroundings (4 * words.length + 8) first words
        match last with
        | word :: _ :: _ => throw (.unexpected word)
        | _ => return holds
      let grouped : Except Failure Bool :=
        if words.head? = some ['('] ∧ words.getLast? = some [')'] then
          let inside := (words.drop 1).dropLast
          whole (role inside) inside
        else if words.head? = some ['!'] then do
          return !(← evaluateWithin surroundings fuel (words.drop 1))
        else
          whole (role words) words
      match words with
      | [] => return false
      | [_, operator, _] =>
          if binaryOperators.contains operator then whole .operand words else grouped
      | [_, _, _, _] => grouped
      | _ => whole (role words) words

/-- Whether the condition that some words state holds. -/
def evaluate (surroundings : Surroundings) (words : List Text) : Except Failure Bool :=
  evaluateWithin surroundings (words.length + 1) words

end Reformat.Shell.Condition
