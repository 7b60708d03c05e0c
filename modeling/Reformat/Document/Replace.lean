import Reformat.Document.Offset

/-!
Replacing one span of a document. The characters outside the span are not touched, and the line
breaks around it keep their endings; those of the new text take the document's.
-/

namespace Reformat

/-- The byte offsets of the LFs of a text that begins at `start`. -/
def newlineOffsets (start : Nat) : Text → List Nat
  | [] => []
  | c :: rest =>
      if c = '\n' then
        start :: newlineOffsets (start + c.utf8Size) rest
      else
        newlineOffsets (start + c.utf8Size) rest

namespace LineEnding

/-- The breaks that text inserted at `start` adds to those remembered as CRLF. -/
def addedBreaks : LineEnding → Nat → Text → List Nat
  | lf, _, _ => []
  | crlf, start, text => newlineOffsets start text

end LineEnding

/-- The number of offsets in front of the first one that is not below a limit. -/
def partitionPoint (offsets : List Nat) (limit : Nat) : Nat :=
  (offsets.takeWhile (· < limit)).length

/-- The breaks, in ascending order, after the span from `start` up to `stop` has given way to `size`
bytes that bring the breaks `added`. -/
def shiftBreaks (breaks added : List Nat) (start stop size : Nat) : List Nat :=
  let low := partitionPoint breaks start
  let high := partitionPoint breaks stop
  let kept := low + added.length
  let spliced := breaks.take low ++ added ++ breaks.drop high
  spliced.take kept ++ (spliced.drop kept).map fun offset => offset - (stop - start) + size

namespace Document

/-- The document with the bytes from `start` up to `stop` replaced by `text`. -/
def replace (document : Document) (start stop : Nat) (text : Text) :
    Except Misfit Document := do
  if stop < start ∨ document.size < stop then
    throw (.outOfBounds start (stop - start) document.size)
  let first ← document.charAtByte start
  let last ← document.charAtByte stop
  return {
    chars := document.chars.take first ++ text ++ document.chars.drop last
    lineEnding := document.lineEnding
    crlfBreaks :=
      shiftBreaks document.crlfBreaks (document.lineEnding.addedBreaks start text)
        start stop (Utf8.size text)
    dirty := true }

end Document

end Reformat
