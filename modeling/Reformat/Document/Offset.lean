import Reformat.Document.Basic
import Reformat.Document.Misfit

/-!
Characters are counted by the editor and bytes by the tools; these functions lead from one count to
the other.
-/

namespace Reformat

namespace Document

/-- The byte offset of a character, or of the end where there are not that many. -/
def byteOfChar (document : Document) (index : Nat) : Nat :=
  Utf8.size (document.chars.take index)

/-- The character that holds a byte, or the end for an offset past it. -/
def charOfByte (document : Document) (offset : Nat) : Nat :=
  charsWithin document.chars offset

/-- The character that starts at a byte. -/
def charAtByte (document : Document) (offset : Nat) : Except Misfit Nat :=
  if document.size < offset then
    throw (.outOfBounds offset 0 document.size)
  else if document.byteOfChar (document.charOfByte offset) = offset then
    return document.charOfByte offset
  else
    throw (.misaligned offset)

end Document

end Reformat
