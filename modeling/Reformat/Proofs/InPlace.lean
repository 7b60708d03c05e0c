import Reformat.Proofs.Except
import Reformat.Edit.Apply

/-!
Applying a batch to a document at hand. The edits are made on a copy, and the copy takes the place
of the document when all else has succeeded. Main statement: this gives what `apply` gives, and
where it fails it leaves the document as it was.
-/

namespace Reformat

/-- Work on a document at hand, which stays what the work has made of it also where it fails. -/
abbrev Session := ExceptT Misfit (StateM Document)

namespace Session

variable {α β : Type}

/-- What the work gives, and what it leaves behind. -/
def on (session : Session α) (document : Document) : Except Misfit α × Document :=
  StateT.run (m := Id) (ExceptT.run session) document

theorem on_bind (session : Session α) (next : α → Session β) (document : Document) :
    (session >>= next).on document =
      match session.on document with
      | (.ok value, reached) => (next value).on reached
      | (.error cause, reached) => (.error cause, reached) := by
  unfold on
  change StateT.run (m := Id) (ExceptT.run session >>= ExceptT.bindCont next) document = _
  rw [StateT.run_bind]
  generalize StateT.run (m := Id) (ExceptT.run session) document = outcome
  obtain ⟨result, reached⟩ := outcome
  cases result with
  | error cause => rfl
  | ok value => rfl

theorem on_get (document : Document) :
    (get : Session Document).on document = (.ok document, document) := rfl

theorem on_lift (result : Except Misfit α) (document : Document) :
    (liftM result : Session α).on document = (result, document) := rfl

end Session

namespace Document

def applyHere (cursor : Nat) (batch : Batch) : Session Applied := do
  let document ← get
  let edits := Edit.descending batch.edits
  Edit.validate document none edits
  let mut staged := document
  let mut position := min cursor document.size
  for edit in edits do
    staged ← staged.replace edit.offset edit.stop edit.inserted
    position := edit.rebase position
  let landed ←
    match batch.cursor with
    | some offset => staged.charAtByte offset
    | none => pure (staged.charOfByte position)
  set staged
  return ⟨landed, edits.length, batch.incomplete⟩

/-- The loop works on the copy alone. -/
private theorem on_loop
    (edits : List Edit) (staged document : Document) (position : Nat) :
    Session.on
        (forIn edits (staged, position) fun edit (copy : Document × Nat) => do
          let next ← liftM (copy.1.replace edit.offset edit.stop edit.inserted)
          pure (ForInStep.yield (next, edit.rebase copy.2)))
        document =
      ((Edit.stage staged edits).map fun edited => (edited, edits.foldl Edit.rebase position),
        document) := by
  induction edits generalizing staged position with
  | nil => rfl
  | cons head rest ih =>
      rw [List.forIn_cons]
      cases replaced : staged.replace head.offset head.stop head.inserted with
      | error cause =>
          rw [Edit.stage, replaced]
          rfl
      | ok next =>
          rw [Edit.stage, replaced]
          exact ih next (head.rebase position)

theorem on_applyHere (document : Document) (cursor : Nat) (batch : Batch) :
    (applyHere cursor batch).on document =
      match document.apply cursor batch with
      | .ok (applied, edited) => (.ok applied, edited)
      | .error cause => (.error cause, document) := by
  unfold applyHere apply
  simp only [Session.on_bind, Session.on_get, Session.on_lift, Edit.length_descending]
  cases checked : Edit.validate document none (Edit.descending batch.edits) with
  | error cause => rfl
  | ok _ =>
      simp only [on_loop]
      cases staged : Edit.stage document (Edit.descending batch.edits) with
      | error cause => rfl
      | ok edited =>
          unfold cursorAfter
          cases batch.cursor with
          | none => rfl
          | some offset =>
              simp only [Except.map, Session.on_bind, Session.on_lift, ok_bind]
              cases settled : edited.charAtByte offset with
              | error cause => rfl
              | ok landed => rfl

end Document

end Reformat
