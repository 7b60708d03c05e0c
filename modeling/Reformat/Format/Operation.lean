import Reformat.Edit.Apply
import Reformat.Format.Collaborator

/-!
Formatting a document as a whole, in a region, or where it differs from a revision. An operation
gives a new document only when it succeeds, so that a failure leaves the one at hand alone.
-/

namespace Reformat

inductive Outcome where
  /-- There was nothing to format, and no formatter was asked. -/
  | unchanged
  | formatted (applied : Applied)
deriving DecidableEq, Repr

/-- The cursor after an operation, given the one before it. -/
def Outcome.cursorOr (outcome : Outcome) (previous : Nat) : Nat :=
  match outcome with
  | unchanged => previous
  | formatted applied => applied.cursor

namespace Document

variable {m : Type → Type} [Monad m]

/-- Asks the formatter once and applies its batch. The cursor is a character position. -/
def format
    (formatter : Formatter m) (document : Document) (cursor : Nat) (style : Style)
    (restriction : Restriction) : ExceptT Failure m (Outcome × Document) := do
  let cursor := document.byteOfChar cursor
  let batch ← formatter document.bytes ⟨style, restriction, cursor⟩
  match document.apply cursor batch with
  | .ok (applied, edited) => return (.formatted applied, edited)
  | .error cause => throw (.misfit cause)

def formatBuffer
    (formatter : Formatter m) (document : Document) (cursor : Nat) (style : Style) :
    ExceptT Failure m (Outcome × Document) :=
  document.format formatter cursor style (.bytes 0 document.size)

/-- The bytes of the characters between two positions, which may come in either order and lie past
the end. -/
def region (document : Document) (start stop : Nat) : Restriction :=
  let first := document.byteOfChar (min start stop)
  .bytes first (document.byteOfChar (max start stop) - first)

def formatRegion
    (formatter : Formatter m) (document : Document) (start stop cursor : Nat) (style : Style) :
    ExceptT Failure m (Outcome × Document) :=
  document.format formatter cursor style (document.region start stop)

/-- Formats the lines that changed since a revision of the file at `path`. Both sides of the
comparison have canonical line breaks. -/
def formatChangedLines
    (formatter : Formatter m) (compare : Comparer m) (archive : Archive m)
    (document : Document) (path : Option Path) (revision : Text) (cursor : Nat) (style : Style) :
    ExceptT Failure m (Outcome × Document) := do
  match path with
  | none => throw (.precondition .backingFile)
  | some path =>
      let baseline ← archive path revision
      let ranges ← compare (canonicalizeBytes baseline) document.bytes
      match Restriction.ofChangedLines? ranges with
      | none => return (.unchanged, document)
      | some restriction =>
          document.format formatter cursor (style.withDefaultFilename path) restriction

end Document

end Reformat
