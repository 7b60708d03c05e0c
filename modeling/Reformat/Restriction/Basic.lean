import Reformat.Restriction.LineRange

/-!
The part of a document that a formatter is asked to format.
-/

namespace Reformat

inductive Restriction where
  | bytes (offset length : Nat)
  | lines (ranges : List LineRange)
deriving DecidableEq, Repr

/-- No restriction can be made of no lines at all. -/
def Restriction.ofChangedLines? (ranges : List LineRange) : Option Restriction :=
  if ranges.isEmpty then none else some (.lines ranges)

end Reformat
