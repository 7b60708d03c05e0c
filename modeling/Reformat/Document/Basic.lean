import Reformat.Document.LineEnding
import Reformat.Text.Position
import Reformat.Text.Slice

/-!
A document: canonical text, and where the host breaks its lines with CRLF.
-/

namespace Reformat

structure Document where
  chars : Text
  /-- The ending of new line breaks. -/
  lineEnding : LineEnding
  /-- The byte offsets, in ascending order, of the LFs that the host sees as CRLF. -/
  crlfBreaks : List Nat
  /-- Whether a batch of edits has been applied since the document was loaded or marked as clean. -/
  dirty : Bool
deriving DecidableEq, Repr

namespace Document

def ofHostText (host : Text) : Document where
  chars := canonicalize host
  lineEnding := LineEnding.detect host
  crlfBreaks := crlfOffsets 0 host
  dirty := false

def empty : Document :=
  ofHostText []

def markClean (document : Document) : Document :=
  { document with dirty := false }

def size (document : Document) : Nat :=
  Utf8.size document.chars

def length (document : Document) : Nat :=
  document.chars.length

def lineCount (document : Document) : Nat :=
  Text.lineCount document.chars

def bytes (document : Document) : Bytes :=
  Utf8.encode document.chars

/-- The text from the offset `last` on, with a CR put in at each of the offsets behind it. -/
def insertReturns (text : Text) (last : Nat) : List Nat → Text
  | [] => slice text last (Utf8.size text)
  | offset :: rest => slice text last offset ++ '\r' :: insertReturns text offset rest

/-- The text as the host writes it. -/
def hostText (document : Document) : Text :=
  insertReturns document.chars 0 document.crlfBreaks

/-- The place of a character, or of the end where there are not that many. -/
def lineColumn (document : Document) (index : Nat) : Text.Position :=
  Text.position document.chars index

/-- The document in one line, without its text. -/
def summary (document : Document) : String :=
  let rope := s!"Rope({document.lineCount} lines, {document.size} bytes)"
  let ending := document.lineEnding.label
  s!"Document \x7b rope: {rope}, line_ending: {ending}, dirty: {document.dirty} \x7d"

@[simp]
theorem chars_markClean (document : Document) :
    document.markClean.chars = document.chars := rfl

@[simp]
theorem hostText_markClean (document : Document) :
    document.markClean.hostText = document.hostText := rfl

end Document

end Reformat
