import Reformat.Shell.Builtin.Variable

/-!
Lines that are read into variables: what backslashes make of a line, and how it is shared out.
-/

namespace Reformat.Shell.Builtin

open Effect

/-- A piece of a line that is read. -/
inductive Mark where
  | plain (c : Char)
  /-- A character behind a backslash, which separates nothing. -/
  | escaped (c : Char)
  /-- Two lines were made one here. -/
  | seam
deriving DecidableEq, Repr

/-- The marks of a line, whether it ends, and how many characters it takes. -/
def lineOf (raw : Bool) : Text → List Mark × Bool × Nat
  | [] => ([], false, 0)
  | '\n' :: _ => ([], true, 1)
  | '\\' :: '\n' :: rest =>
      let (line, ended, count) := lineOf raw rest
      if raw then ([.plain '\\'], true, 2) else (.seam :: line, ended, count + 2)
  | '\\' :: c :: rest =>
      let (line, ended, count) := lineOf raw rest
      if raw then
        let (line, ended, count) := lineOf raw (c :: rest)
        (.plain '\\' :: line, ended, count + 1)
      else
        (.escaped c :: line, ended, count + 2)
  | c :: rest =>
      let (line, ended, count) := lineOf raw rest
      if c = '\x00' || (c = '\\' && !raw) then
        (line, ended, count + 1)
      else
        (.plain c :: line, ended, count + 1)

/-- What is known where a line is shared out. -/
structure Sharing where
  /-- How many fields may still end; the one under way is the last one if there are none. -/
  left : Nat
  /-- The field under way, the last character first. -/
  field : Text
  /-- What is left of the last field if nothing follows but what separates. -/
  trimmed : Option Text
  /-- Whether a blank has come last of what separates. -/
  isBlank : Bool
  /-- Whether a field has just ended. -/
  isBetween : Bool

namespace Sharing

def add (sharing : Sharing) (c : Char) : Sharing :=
  { sharing with field := c :: sharing.field }

/-- Another piece of the line begins, in which what stood in front of it is forgotten. -/
def renew (sharing : Sharing) : Sharing :=
  { sharing with isBlank := false, isBetween := false }

/-- Takes a character into the last field. -/
def addLast (sharing : Sharing) (c : Char) (separates isBlank : Bool) : Sharing :=
  let trimmed :=
    if isBlank then some (sharing.trimmed.getD sharing.field)
    else if separates && sharing.isBlank then sharing.trimmed
    else none
  { sharing.add c with trimmed := trimmed, isBlank := isBlank && sharing.isBlank }

/-- Takes a character, and gives the field that it ends, if it does. -/
def take (sharing : Sharing) (c : Char) (separates isBlank : Bool) : Option Text × Sharing :=
  if sharing.left = 0 then
    (none, sharing.addLast c separates isBlank)
  else if !separates then
    (none, { sharing.add c with isBetween := false })
  else if sharing.isBetween && (isBlank || sharing.isBlank) then
    (none, { sharing with isBlank := isBlank && sharing.isBlank })
  else if sharing.field.isEmpty && isBlank then
    (none, { sharing with isBlank := false })
  else if sharing.left = 1 then
    (none, { sharing.add c with
      left := 0, trimmed := some sharing.field, isBlank := isBlank, isBetween := false })
  else
    (some sharing.field.reverse,
      { sharing with left := sharing.left - 1, field := [], isBlank := isBlank, isBetween := true })

end Sharing

/-- The fields of a line, given what separates them. -/
def shareFrom (separators : Text) (sharing : Sharing) : List Mark → List Text
  | [] =>
      let last := sharing.trimmed.getD sharing.field
      if last.isEmpty then [] else [last.reverse]
  | .seam :: rest => shareFrom separators sharing.renew rest
  | .escaped c :: rest => shareFrom separators (sharing.renew.add c) rest
  | .plain c :: rest =>
      let separates := separators.contains c
      let isBlank := separates && [' ', '\t', '\n'].contains c
      let (ended, sharing) := sharing.take c separates isBlank
      ended.toList ++ shareFrom separators sharing rest

/-- A line in as many fields as there are names at most. -/
def share (separators : Text) (count : Nat) (line : List Mark) : List Text :=
  shareFrom separators ⟨count, [], none, false, false⟩ line

/-- Reads a line into variables. -/
def read : Builtin := fun arguments => do
  let given ← given ['r'] ['p'] arguments
  let names := given.operands
  if names.isEmpty then
    fail "arg count".toList
  names.forM requireName
  match ← pending? 0 with
  | none => return 1
  | some (text, _) =>
  let (line, ended, count) := lineOf (given.has 'r') text
  advance 0 count
  let values := share (← separators) names.length line
  for (name, value) in names.zip (values ++ List.replicate names.length []) do
    assign name value
  return if ended then 0 else 1

end Reformat.Shell.Builtin
