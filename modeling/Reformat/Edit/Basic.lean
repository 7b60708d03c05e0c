import Reformat.Text.Utf8

/-!
Edits and batches of edits. An edit replaces a span of bytes, counted in the document as it was
before the batch.
-/

namespace Reformat

structure Edit where
  offset : Nat
  length : Nat
  /-- Nothing to insert may be written as no text or as the empty text. -/
  text : Option Text
deriving DecidableEq, Repr

namespace Edit

/-- The offset behind the span. -/
def stop (edit : Edit) : Nat :=
  edit.offset + edit.length

/-- The offset behind the span, if it fits 64 bits. -/
def stop? (edit : Edit) : Option Nat :=
  if edit.stop < UInt64.size then some edit.stop else none

def inserted (edit : Edit) : Text :=
  edit.text.getD []

def insertedSize (edit : Edit) : Nat :=
  Utf8.size edit.inserted

end Edit

structure Batch where
  edits : List Edit
  /-- Where the formatter puts the cursor, as a byte offset into the edited document. -/
  cursor : Option Nat
  /-- Whether the formatter met syntax errors. -/
  incomplete : Bool
deriving DecidableEq, Repr

def Batch.isEmpty (batch : Batch) : Bool :=
  batch.edits.isEmpty

end Reformat
