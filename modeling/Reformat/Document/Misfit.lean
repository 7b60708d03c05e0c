/-!
The ways in which an offset or an edit fails to fit a document.
-/

namespace Reformat

/-- The bytes from `start` up to `stop`, without `stop` itself. -/
structure Span where
  start : Nat
  stop : Nat
deriving DecidableEq, Repr

inductive Misfit where
  | outOfBounds (offset length size : Nat)
  | misaligned (offset : Nat)
  /-- Both spans lie in the document; `lower` starts first or ends inside `upper`. -/
  | overlap (lower upper : Span)
deriving DecidableEq, Repr

def Span.message (span : Span) : String :=
  s!"[{span.start}, {span.stop})"

def Misfit.message : Misfit → String
  | outOfBounds offset length size =>
      s!"edit at byte {offset} with length {length} exceeds document size {size}"
  | misaligned offset => s!"byte offset {offset} is not on a character boundary"
  | overlap lower upper => s!"edits overlap: {lower.message} runs into {upper.message}"

end Reformat
