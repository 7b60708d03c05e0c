import Reformat.Edit.Apply

/-!
What a batch makes of a text, said without applying one edit after the other: the pieces between
the edits are kept, each edit gives way to its text, and every offset is one of the text before
the batch.
-/

namespace Reformat

namespace Edit

/-- From the lowest offset up, at one offset the shortest first. -/
def ascending (edits : List Edit) : List Edit :=
  (descending edits).reverse

/-- What lies between two offsets as `keep` gives it, and what is inserted as `write` does, from the
offset `start` up to `size`. -/
def assemble (keep : Nat → Nat → Text) (write : Text → Text) (size start : Nat) :
    List Edit → Text
  | [] => keep start size
  | edit :: rest =>
      keep start edit.offset ++ write edit.inserted ++
        assemble keep write size edit.stop rest

def substitute (text : Text) (edits : List Edit) : Text :=
  assemble (slice text) id (Utf8.size text) 0 (ascending edits)

/-- One edit after the other in the order given, each at its offset moved by what those before it
have added. -/
def forward (text : Text) (added : Int) : List Edit → Text
  | [] => text
  | edit :: rest =>
      let start := (edit.offset + added).toNat
      forward
        (slice text 0 start ++ edit.inserted ++
          slice text (start + edit.length) (Utf8.size text))
        (added + edit.insertedSize - edit.length) rest

end Edit

namespace Document

/-- Puts a CR before each character at one of the offsets, given the offset of the first one. -/
def restoreBreaks (breaks : List Nat) : Nat → Text → Text
  | _, [] => []
  | offset, c :: rest =>
      if offset ∈ breaks then
        '\r' :: c :: restoreBreaks breaks (offset + c.utf8Size) rest
      else
        c :: restoreBreaks breaks (offset + c.utf8Size) rest

/-- The characters between two byte offsets as the host writes them. -/
def hostSlice (document : Document) (start stop : Nat) : Text :=
  restoreBreaks document.crlfBreaks start (slice document.chars start stop)

/-- New text as the host writes it. -/
def hostInsertion (document : Document) (text : Text) : Text :=
  text.flatMap fun c => if c = '\n' then document.lineEnding.text else [c]

def substituteHost (document : Document) (edits : List Edit) : Text :=
  Edit.assemble document.hostSlice document.hostInsertion document.size 0 (Edit.ascending edits)

theorem restoreBreaks_nil (offset : Nat) (text : Text) :
    restoreBreaks [] offset text = text := by
  induction text generalizing offset with
  | nil => rfl
  | cons head tail ih =>
      simp [restoreBreaks, ih]

theorem restoreBreaks_append
    (breaks : List Nat) (offset : Nat) (left right : Text) :
    restoreBreaks breaks offset (left ++ right) =
      restoreBreaks breaks offset left ++
        restoreBreaks breaks (offset + Utf8.size left) right := by
  induction left generalizing offset with
  | nil => simp [restoreBreaks]
  | cons head tail ih =>
      by_cases member : offset ∈ breaks
      · simp [restoreBreaks, member, ih, Nat.add_assoc]
      · simp [restoreBreaks, member, ih, Nat.add_assoc]

end Document

end Reformat
