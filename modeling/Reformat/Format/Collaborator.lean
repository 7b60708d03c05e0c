import Reformat.Failure
import Reformat.Format.Style

/-!
Those who help to format a document: one that knows its revisions, one that compares two of them and
one that formats. Each answers or fails, in a monad that records or carries out the calls.
-/

namespace Reformat

/-- What a formatter is asked besides the bytes to format. -/
structure Request where
  style : Style
  restriction : Restriction
  /-- The cursor as a byte offset. -/
  cursor : Nat
deriving DecidableEq, Repr

abbrev Formatter (m : Type → Type) :=
  Bytes → Request → ExceptT Failure m Batch

/-- Gives the lines of the second content that the first one does not have. -/
abbrev Comparer (m : Type → Type) :=
  Bytes → Bytes → ExceptT Failure m (List LineRange)

/-- Gives the content of a file at a revision. -/
abbrev Archive (m : Type → Type) :=
  Path → Text → ExceptT Failure m Bytes

end Reformat
