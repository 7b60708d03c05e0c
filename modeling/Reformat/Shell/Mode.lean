import Reformat.Text.Split

/-!
The permissions of files: reading, writing and running, for the owner, the group and others. They are a
number of nine bits, and a change of them is told by a number or by letters.
-/

namespace Reformat.Shell

abbrev Mode := Nat

namespace Mode

def all : Mode :=
  0o777

/-- What everyone gets who is not named: everything but that others write. -/
def unnamed : Mode :=
  0o755

def ofFile : Mode :=
  0o644

def ofDirectory : Mode :=
  0o755

/-- Whether anyone may run a file. -/
def isRunnable (mode : Mode) : Bool :=
  mode &&& 0o111 ≠ 0

/-- What is given, taken or left alone. -/
inductive Operation where
  | give
  | take
  | set
deriving DecidableEq, Repr

structure Change where
  operation : Operation
  /-- The bits of those that are named; none if nobody is. -/
  affected : Nat
  value : Nat
deriving DecidableEq, Repr

/-- The bits that letters stand for. -/
def bitsOf (known : List (Char × Nat)) (letters : Text) : Nat :=
  letters.foldl (fun bits letter => bits ||| (known.lookup letter).getD 0) 0

def owners : List (Char × Nat) :=
  [('u', 0o700), ('g', 0o070), ('o', 0o007), ('a', 0o777)]

def grants : List (Char × Nat) :=
  [('r', 0o444), ('w', 0o222), ('x', 0o111)]

def operation? : Char → Option Operation
  | '+' => some .give
  | '-' => some .take
  | '=' => some .set
  | _ => none

/-- The changes of a clause in which those are named that it affects. -/
def changesWithin (affected : Nat) : Nat → Text → Option (List Change)
  | 0, _ => none
  | _ + 1, [] => some []
  | fuel + 1, sign :: rest => do
      let operation ← operation? sign
      let letters := rest.takeWhile fun letter => (grants.lookup letter).isSome
      let others ← changesWithin affected fuel (rest.drop letters.length)
      return ⟨operation, affected, bitsOf grants letters⟩ :: others

/-- The changes of a clause, of which there must be one. -/
def clause? (text : Text) : Option (List Change) :=
  let named := text.takeWhile fun letter => (owners.lookup letter).isSome
  let behind := text.drop named.length
  if behind.isEmpty then none
  else changesWithin (bitsOf owners named) (behind.length + 1) behind

/-- The changes that a text tells. -/
def read? (text : Text) : Option (List Change) :=
  if !text.isEmpty && text.all fun c => '0' ≤ c && c < '8' then
    let value := Nat.ofDigitChars 8 text 0
    if value ≤ all then some [⟨.set, all, value⟩] else none
  else
    ((text.splitOn ',').mapM clause?).map List.flatten

/-- The permissions behind a change, which leaves some alone where it affects nobody by name. -/
def Change.apply (mode : Mode) (change : Change) : Mode :=
  let value := change.value &&& (if change.affected = 0 then unnamed else change.affected)
  match change.operation with
  | .give => mode ||| value
  | .take => mode &&& (all ^^^ value)
  | .set => (mode &&& (if change.affected = 0 then 0 else all ^^^ change.affected)) ||| value

/-- The permissions behind changes, one after the other. -/
def adjust (changes : List Change) (mode : Mode) : Mode :=
  changes.foldl Change.apply mode

end Mode

end Reformat.Shell
