import Reformat.Proofs.InPlace
import Reformat.Proofs.Substitution

/-!
Which batches a document takes. Main statement: a batch is taken just where its spans fit the
document, any two of them are disjoint, and a cursor of its own is a boundary of the edited text;
any other batch leaves the document as it was.
-/

namespace Reformat.Document

/-- What a batch has to be for a document to take it. -/
structure Accepts (document : Document) (batch : Batch) : Prop where
  representable : ∀ edit ∈ batch.edits, edit.stop < UInt64.size
  bounded : ∀ edit ∈ batch.edits, edit.stop ≤ document.size
  aligned : ∀ edit ∈ batch.edits,
    IsBoundary document.chars edit.offset ∧ IsBoundary document.chars edit.stop
  apart : batch.edits.Pairwise Edit.Apart
  cursor : ∀ offset ∈ batch.cursor,
    offset ≤ Utf8.size (Edit.substitute document.chars batch.edits) ∧
      IsBoundary (Edit.substitute document.chars batch.edits) offset

theorem exists_stage_of_validate {document : Document} {edits : List Edit}
    (checked : Edit.validate document none (Edit.descending edits) = .ok ()) :
    ∃ edited, Edit.stage document (Edit.descending edits) = .ok edited :=
  Edit.exists_stage_eq_ok (Edit.descends_of_validate checked)

theorem exists_cursorAfter_iff
    {document edited : Document} {cursor : Nat} {relocated : Option Nat} {edits : List Edit} :
    (∃ position, document.cursorAfter edited cursor relocated edits = .ok position) ↔
      ∀ offset ∈ relocated, IsBoundary edited.chars offset := by
  unfold cursorAfter
  cases relocated with
  | none => simp [pure, Except.pure]
  | some offset => simp [charAtByte_eq_ok_iff]

theorem exists_apply_eq_ok_iff {document : Document} {cursor : Nat} {batch : Batch} :
    (∃ applied edited, document.apply cursor batch = .ok (applied, edited)) ↔
      document.Accepts batch := by
  constructor
  · rintro ⟨applied, edited, accepted⟩
    obtain ⟨checked, staged, settled, -⟩ := apply_eq_ok_iff.mp accepted
    obtain ⟨fits, apart⟩ := Edit.validate_descending_eq_ok_iff.mp checked
    refine ⟨fun edit member => (fits edit member).representable,
      fun edit member => (fits edit member).bounded,
      fun edit member => ⟨(fits edit member).first, (fits edit member).last⟩, apart, ?_⟩
    intro offset found
    have boundary := exists_cursorAfter_iff.mp ⟨applied.cursor, settled⟩ offset found
    rw [chars_of_stage checked staged] at boundary
    exact ⟨boundary.le_size, boundary⟩
  · intro accepts
    have fits : ∀ edit ∈ batch.edits, edit.Fits document.chars := by
      intro edit member
      obtain ⟨first, last⟩ := accepts.aligned edit member
      exact ⟨accepts.representable edit member, accepts.bounded edit member, first, last⟩
    have checked := Edit.validate_descending_eq_ok_iff.mpr ⟨fits, accepts.apart⟩
    obtain ⟨edited, staged⟩ := exists_stage_of_validate checked
    have settles : ∀ offset ∈ batch.cursor, IsBoundary edited.chars offset := by
      intro offset found
      rw [chars_of_stage checked staged]
      exact (accepts.cursor offset found).2
    have exists_position :
        ∃ position,
          document.cursorAfter edited cursor batch.cursor (Edit.descending batch.edits) =
            .ok position :=
      exists_cursorAfter_iff.mpr settles
    obtain ⟨position, settled⟩ := exists_position
    exact ⟨⟨position, batch.edits.length, batch.incomplete⟩, edited,
      apply_eq_ok_iff.mpr ⟨checked, staged, settled, rfl, rfl⟩⟩

/-- A batch is taken just where the document accepts it, staging never fails once the check has
passed, and a batch that is refused leaves the document at hand as it was. -/
theorem apply_is_atomic (document : Document) (cursor : Nat) (batch : Batch) :
    ((∃ applied edited, document.apply cursor batch = .ok (applied, edited)) ↔
        document.Accepts batch) ∧
      (Edit.validate document none (Edit.descending batch.edits) = .ok () →
        ∃ edited, Edit.stage document (Edit.descending batch.edits) = .ok edited) ∧
      (¬ document.Accepts batch →
        ∃ cause,
          document.apply cursor batch = .error cause ∧
            (applyHere cursor batch).on document = (.error cause, document)) := by
  refine ⟨exists_apply_eq_ok_iff, exists_stage_of_validate, ?_⟩
  intro refused
  have outcome := on_applyHere document cursor batch
  cases result : document.apply cursor batch with
  | error cause =>
      rw [result] at outcome
      exact ⟨cause, rfl, outcome⟩
  | ok success =>
      have accepts : document.Accepts batch :=
        exists_apply_eq_ok_iff.mp ⟨success.1, success.2, result⟩
      exact absurd accepts refused

/-- An insertion at the start of a replaced span is taken, and one inside of it is not. -/
theorem apply_is_atomic_inside_span :
    let document := Document.ofHostText ['a', 'é', 'b', '\r', '\n']
    let whole : Edit := ⟨0, 4, some ['x']⟩
    let atStart : Batch := ⟨[whole, ⟨0, 0, some ['y']⟩], some 2, false⟩
    let inside : Batch := ⟨[whole, ⟨1, 0, some ['y']⟩], some 2, false⟩
    (∃ applied edited, document.apply 0 atStart = .ok (applied, edited)) ∧
      ¬ document.Accepts inside ∧
      ∃ cause, (applyHere 0 inside).on document = (.error cause, document) := by
  intro document whole atStart inside
  have accepts : document.Accepts atStart :=
    ⟨by decide +kernel, by decide +kernel, by decide +kernel, by decide +kernel,
      by decide +kernel⟩
  have refused : ¬ document.Accepts inside := fun accepts =>
    absurd accepts.apart (by decide +kernel)
  obtain ⟨cause, -, stays⟩ := (apply_is_atomic document 0 inside).2.2 refused
  exact ⟨(apply_is_atomic document 0 atStart).1.mpr accepts, refused, cause, stays⟩

end Reformat.Document
