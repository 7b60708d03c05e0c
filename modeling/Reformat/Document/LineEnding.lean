import Reformat.Text.Utf8

/-!
Line endings. A host text may break its lines with LF or with CRLF and mix the two; its canonical
text breaks them with LF alone. Main statements: the breaks that lost a CR are as many as the
characters that canonical text is shorter, and text without a CR is canonical.
-/

namespace Reformat

inductive LineEnding where
  | lf
  | crlf
deriving DecidableEq, Repr, Inhabited

namespace LineEnding

def text : LineEnding → Text
  | lf => ['\n']
  | crlf => ['\r', '\n']

def label : LineEnding → String
  | lf => "Lf"
  | crlf => "CrLf"

/-- The ending of the first line, LF if no line ends. -/
def detect : Text → LineEnding
  | [] => lf
  | '\r' :: '\n' :: _ => crlf
  | '\n' :: _ => lf
  | _ :: rest => detect rest

end LineEnding

/-- Drops each `first` that stands directly before a `second`. -/
def dropBefore {α : Type} [DecidableEq α] (first second : α) : List α → List α
  | [] => []
  | head :: rest =>
      if head = first ∧ rest.head? = some second then
        dropBefore first second rest
      else
        head :: dropBefore first second rest

/-- The text with every CRLF written as LF; a CR anywhere else stays. -/
def canonicalize (host : Text) : Text :=
  dropBefore '\r' '\n' host

/-- The same for content that need not be text. -/
def canonicalizeBytes (host : Bytes) : Bytes :=
  dropBefore 13 10 host

/-- The places in canonical text of the LFs that the host wrote as CRLF, as byte offsets, given the
offset at which the text begins. -/
def crlfOffsets (start : Nat) : Text → List Nat
  | [] => []
  | head :: rest =>
      if head = '\r' ∧ rest.head? = some '\n' then
        start :: crlfOffsets start rest
      else
        crlfOffsets (start + head.utf8Size) rest

theorem dropBefore_eq_self
    {α : Type} [DecidableEq α] {first second : α} {items : List α}
    (absent : first ∉ items) :
    dropBefore first second items = items := by
  induction items with
  | nil => rfl
  | cons head rest ih =>
      simp only [List.mem_cons, not_or] at absent
      have different : head ≠ first := fun equality => absent.1 equality.symm
      simp [dropBefore, different, ih absent.2]

theorem canonicalize_eq_self {text : Text} (absent : '\r' ∉ text) : canonicalize text = text :=
  dropBefore_eq_self absent

theorem length_canonicalize_add (start : Nat) (host : Text) :
    (canonicalize host).length + (crlfOffsets start host).length = host.length := by
  unfold canonicalize
  induction host generalizing start with
  | nil => rfl
  | cons head rest ih =>
      by_cases dropped : head = '\r' ∧ rest.head? = some '\n'
      · have tailLength := ih start
        simp only [dropBefore, crlfOffsets, dropped, and_self, if_true, List.length_cons]
        omega
      · have tailLength := ih (start + head.utf8Size)
        simp only [dropBefore, crlfOffsets, dropped, if_false, List.length_cons]
        omega

end Reformat
