import Reformat.Proofs.Invariant
import Reformat.Proofs.Ordering

/-!
The documents that a program can come to hold. Main statement: in each of them the remembered breaks
are line breaks of the text, in ascending order.
-/

namespace Reformat.Document

theorem apply_eq_ok_iff
    {document edited : Document} {cursor : Nat} {batch : Batch} {applied : Applied} :
    document.apply cursor batch = .ok (applied, edited) ↔
      Edit.validate document none (Edit.descending batch.edits) = .ok () ∧
        Edit.stage document (Edit.descending batch.edits) = .ok edited ∧
          document.cursorAfter edited cursor batch.cursor (Edit.descending batch.edits) =
              .ok applied.cursor ∧
            applied.editsApplied = batch.edits.length ∧
              applied.incomplete = batch.incomplete := by
  unfold apply
  simp only [bind_eq_ok_iff, Edit.length_descending]
  constructor
  · rintro ⟨⟨⟩, checked, next, staged, position, settled, result⟩
    cases result
    exact ⟨checked, staged, settled, rfl, rfl⟩
  · rintro ⟨checked, staged, settled, count, incomplete⟩
    refine ⟨(), checked, edited, staged, applied.cursor, settled, ?_⟩
    rw [← count, ← incomplete]
    rfl

section

variable {document edited : Document} {cursor : Nat} {batch : Batch} {applied : Applied}

theorem eq_of_apply_nil
    (accepted : document.apply cursor batch = .ok (applied, edited)) (nothing : batch.edits = []) :
    edited = document := by
  obtain ⟨-, staged, -⟩ := apply_eq_ok_iff.mp accepted
  rw [nothing] at staged
  exact (Except.ok.inj staged).symm

theorem dirty_of_apply
    (accepted : document.apply cursor batch = .ok (applied, edited)) (some : batch.edits ≠ []) :
    edited.dirty = true := by
  obtain ⟨-, staged, -⟩ := apply_eq_ok_iff.mp accepted
  cases order : Edit.descending batch.edits with
  | nil =>
      have none := Edit.length_descending batch.edits
      rw [order] at none
      exact absurd (List.eq_nil_of_length_eq_zero none.symm) some
  | cons edit rest =>
      rw [order] at staged
      obtain ⟨-, restStaged⟩ := Edit.stage_cons_eq_ok_iff.mp staged
      exact Edit.stage_induction (motive := fun reached => reached.dirty = true)
        (fun _ _ => rfl) restStaged rfl

end

/-- What a document becomes by being loaded, edited and marked as clean, in any order. -/
inductive Reachable : Document → Prop
  | loaded (host : Text) :
      Reachable (ofHostText host)
  | applied {document edited : Document} {cursor : Nat} {batch : Batch} {applied : Applied} :
      Reachable document →
      document.apply cursor batch = .ok (applied, edited) →
      Reachable edited
  | cleaned {document : Document} :
      Reachable document →
      Reachable document.markClean

theorem Reachable.sound {document : Document} (reached : document.Reachable) :
    document.Sound := by
  induction reached with
  | loaded host => exact sound_ofHostText host
  | applied _ accepted sound =>
      obtain ⟨-, staged, -⟩ := apply_eq_ok_iff.mp accepted
      exact Edit.stage_induction (fun span sound => sound.replaced span) staged sound
  | cleaned _ sound => exact sound

end Reformat.Document
