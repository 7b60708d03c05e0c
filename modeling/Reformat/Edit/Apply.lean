import Reformat.Document.Replace
import Reformat.Edit.Order

/-!
Applying a batch to a document. The batch is checked as a whole before anything is replaced, so that
it is applied altogether or not at all, and the cursor of the editor is carried along.
-/

namespace Reformat

structure Applied where
  /-- The cursor in the edited document, as a character position. -/
  cursor : Nat
  editsApplied : Nat
  incomplete : Bool
deriving DecidableEq, Repr

namespace Edit

/-- The span of an edit that lies in the document and starts and ends between two characters. -/
def place (document : Document) (edit : Edit) : Except Misfit Span := do
  match edit.stop?.filter (· ≤ document.size) with
  | none => throw (.outOfBounds edit.offset edit.length document.size)
  | some stop =>
      let _ ← document.charAtByte edit.offset
      let _ ← document.charAtByte stop
      return ⟨edit.offset, stop⟩

/-- Checks edits in descending order, of which none may reach into the span before it. -/
def validate (document : Document) : Option Span → List Edit → Except Misfit Unit
  | _, [] => return ()
  | upper, edit :: rest => do
      let span ← edit.place document
      match upper with
      | some upper =>
          if upper.start < span.stop then
            throw (.overlap span upper)
      | none => pure ()
      validate document (some span) rest

/-- The document after all of the edits, one by one. -/
def stage (document : Document) : List Edit → Except Misfit Document
  | [] => return document
  | edit :: rest => do
      let next ← document.replace edit.offset edit.stop edit.inserted
      stage next rest

/-- A cursor, as a byte offset, after an edit. It moves with the text in front of it, and from
inside the replaced span it goes to its start. -/
def rebase (cursor : Nat) (edit : Edit) : Nat :=
  if edit.stop ≤ cursor then
    cursor - edit.length + edit.insertedSize
  else if edit.offset < cursor then
    edit.offset
  else
    cursor

end Edit

namespace Document

/-- The cursor after a batch, as a character position of the edited document: where the formatter
puts it, if it does, and else where the edits, in the order given, carry it. -/
def cursorAfter
    (document edited : Document) (cursor : Nat) (relocated : Option Nat) (edits : List Edit) :
    Except Misfit Nat :=
  match relocated with
  | some offset => edited.charAtByte offset
  | none => return edited.charOfByte (edits.foldl Edit.rebase (min cursor document.size))

/-- Applies a batch, with the cursor as a byte offset into the document before it. -/
def apply (document : Document) (cursor : Nat) (batch : Batch) :
    Except Misfit (Applied × Document) := do
  let edits := Edit.descending batch.edits
  Edit.validate document none edits
  let edited ← Edit.stage document edits
  let cursor ← document.cursorAfter edited cursor batch.cursor edits
  return (⟨cursor, edits.length, batch.incomplete⟩, edited)

end Document

end Reformat
