import Reformat.Edit.Apply
import Reformat.Proofs.Boundary

/-!
Applying a batch on a machine of 64 bits. Each sum and each difference is formed by an operation that
halts where its result is not exact, and each index goes to an operation that halts where the index
is out of range. What the operations give where they do not halt is what `Document.apply` is made of.
-/

namespace Reformat

/-- Why the machine comes to no result. It halts with `refused` where the batch is to blame and a
complaint is given, and in any other way where an operation was asked for what it cannot do. -/
inductive Halt where
  | refused (cause : Misfit)
  | overflow (left right : Nat)
  | underflow (left right : Nat)
  | outOfRange (index limit : Nat)
  | parted (offset : Nat)
deriving DecidableEq, Repr

namespace Machine

/-! ## Numbers and lists -/

def add (left right : Nat) : Except Halt Nat :=
  if left + right < UInt64.size then return left + right else throw (.overflow left right)

def subtract (left right : Nat) : Except Halt Nat :=
  if right ≤ left then return left - right else throw (.underflow left right)

def within (index limit : Nat) : Except Halt Unit :=
  if index ≤ limit then return () else throw (.outOfRange index limit)

/-- The items with those from `low` up to `high` replaced. -/
def splice (items : List Nat) (low high : Nat) (added : List Nat) : Except Halt (List Nat) := do
  within low high
  within high items.length
  return items.take low ++ added ++ items.drop high

/-! ## Texts -/

/-- The character that holds a byte. A strict machine is not to be asked for a byte inside of one. -/
def charOfByte (strict : Bool) (text : Text) (offset : Nat) : Except Halt Nat := do
  within offset (Utf8.size text)
  if strict ∧ ¬ IsBoundary text offset then
    throw (.parted offset)
  else
    return charsWithin text offset

def byteOfChar (text : Text) (index : Nat) : Except Halt Nat := do
  within index text.length
  return Utf8.size (text.take index)

def remove (text : Text) (first last : Nat) : Except Halt Text := do
  within first last
  within last text.length
  return text.take first ++ text.drop last

def insert (text : Text) (index : Nat) (inserted : Text) : Except Halt Text := do
  within index text.length
  return text.take index ++ inserted ++ text.drop index

/-- Removes a span that may be empty, for which nothing is asked of the text. -/
def clear (text : Text) (first last : Nat) : Except Halt Text :=
  if first < last then remove text first last else return text

/-- Inserts a text that may be empty, for which nothing is asked of the text around it. -/
def fill (text : Text) (index : Nat) (inserted : Text) : Except Halt Text :=
  if inserted.isEmpty then return text else insert text index inserted

/-! ## Documents -/

def charAtByte (strict : Bool) (document : Document) (offset : Nat) : Except Halt Nat :=
  if document.size < offset then
    throw (.refused (.outOfBounds offset 0 document.size))
  else do
    let index ← charOfByte strict document.chars offset
    let start ← byteOfChar document.chars index
    if start = offset then return index else throw (.refused (.misaligned offset))

def addedBreaks (ending : LineEnding) (start : Nat) (text : Text) : Except Halt (List Nat) :=
  match ending with
  | .lf => return []
  | .crlf => (newlineOffsets 0 text).mapM (add start)

def moveBreak (start stop size offset : Nat) : Except Halt Nat := do
  let removed ← subtract stop start
  let moved ← subtract offset removed
  add moved size

def shiftBreaks (breaks added : List Nat) (start stop size : Nat) : Except Halt (List Nat) := do
  let low := partitionPoint breaks start
  let high := partitionPoint breaks stop
  let kept ← add low added.length
  let spliced ← splice breaks low high added
  within kept spliced.length
  let moved ← (spliced.drop kept).mapM (moveBreak start stop size)
  return spliced.take kept ++ moved

/-- Where the text is cut, no machine is to be asked for a byte inside of a character. -/
def replace (document : Document) (start stop : Nat) (text : Text) : Except Halt Document :=
  if stop < start ∨ document.size < stop then
    throw (.refused (.outOfBounds start (stop - start) document.size))
  else do
    let first ← charAtByte true document start
    let last ← charAtByte true document stop
    let left ← clear document.chars first last
    let chars ← fill left first text
    let added ← addedBreaks document.lineEnding start text
    let breaks ← shiftBreaks document.crlfBreaks added start stop (Utf8.size text)
    return {
      chars := chars
      lineEnding := document.lineEnding
      crlfBreaks := breaks
      dirty := true }

/-! ## Batches -/

/-- The end of an edit is the one sum that is allowed to overflow. -/
def place (strict : Bool) (document : Document) (edit : Edit) : Except Halt Span :=
  match edit.stop?.filter (· ≤ document.size) with
  | none => throw (.refused (.outOfBounds edit.offset edit.length document.size))
  | some stop => do
      let _ ← charAtByte strict document edit.offset
      let _ ← charAtByte strict document stop
      return ⟨edit.offset, stop⟩

def validate (strict : Bool) (document : Document) : Option Span → List Edit → Except Halt Unit
  | _, [] => return ()
  | upper, edit :: rest => do
      let span ← place strict document edit
      match upper with
      | some upper =>
          if upper.start < span.stop then
            throw (.refused (.overlap span upper))
      | none => pure ()
      validate strict document (some span) rest

def rebase (cursor : Nat) (edit : Edit) : Except Halt Nat := do
  let stop ← add edit.offset edit.length
  if stop ≤ cursor then
    let front ← subtract cursor edit.length
    add front edit.insertedSize
  else if edit.offset < cursor then
    return edit.offset
  else
    return cursor

/-- The document and the cursor after all of the edits, one by one. -/
def stage (document : Document) (cursor : Nat) : List Edit → Except Halt (Document × Nat)
  | [] => return (document, cursor)
  | edit :: rest => do
      let stop ← add edit.offset edit.length
      let next ← replace document edit.offset stop edit.inserted
      let moved ← rebase cursor edit
      stage next moved rest

/-- The cursor is taken back to the start of its character. A machine may be strict about it too. -/
def cursorAfter (strict strictCursor : Bool) (edited : Document) (moved : Nat)
    (relocated : Option Nat) : Except Halt Nat :=
  match relocated with
  | some offset => charAtByte strict edited offset
  | none => charOfByte strictCursor edited.chars (min moved edited.size)

def apply (strict strictCursor : Bool) (document : Document) (cursor : Nat) (batch : Batch) :
    Except Halt (Applied × Document) := do
  let edits := Edit.descending batch.edits
  validate strict document none edits
  let (edited, moved) ← stage document (min cursor document.size) edits
  let position ← cursorAfter strict strictCursor edited moved batch.cursor
  return (⟨position, edits.length, batch.incomplete⟩, edited)

end Machine

end Reformat
