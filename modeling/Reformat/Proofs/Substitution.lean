import Reformat.Proofs.Pieces
import Reformat.Proofs.Reachability

/-!
A batch as one substitution. Main statements: the text after a batch is the text before it with all
spans given way at once, and the host text is the host text before it in the same way.
-/

namespace Reformat

namespace Document

theorem lineEnding_of_stage
    {document edited : Document} {edits : List Edit}
    (staged : Edit.stage document edits = .ok edited) :
    edited.lineEnding = document.lineEnding :=
  Edit.stage_induction (motive := fun reached => reached.lineEnding = document.lineEnding)
    (fun _ same => same) staged rfl

theorem chars_of_stage
    {document edited : Document} {edits : List Edit}
    (checked : Edit.validate document none (Edit.descending edits) = .ok ())
    (staged : Edit.stage document (Edit.descending edits) = .ok edited) :
    edited.chars = Edit.substitute document.chars edits := by
  rw [← edited.canonical_keep_size,
    Rendering.canonical.keep_of_stage trivial (Edit.descends_of_validate checked) staged]
  rfl

/-- What the edits of a batch make of a text they make all at once: its pieces between the spans are
kept, each span gives way to the text of its edit, and all offsets are those before the batch. -/
theorem apply_substitutes
    {document edited : Document} {cursor : Nat} {batch : Batch} {applied : Applied}
    (accepted : document.apply cursor batch = .ok (applied, edited)) :
    (∀ ordered, Edit.IsAscending batch.edits ordered ↔ ordered = Edit.ascending batch.edits) ∧
      edited.chars = Edit.substitute document.chars batch.edits ∧
      applied.editsApplied = batch.edits.length ∧
      applied.incomplete = batch.incomplete := by
  obtain ⟨checked, staged, -, count, incomplete⟩ := apply_eq_ok_iff.mp accepted
  exact ⟨fun _ => Edit.isAscending_iff, chars_of_stage checked staged, count, incomplete⟩

/-- Two insertions and a replacement at one offset, and a deletion behind them. -/
theorem apply_substitutes_at_one_offset :
    let document := Document.ofHostText ['a', '\r', '\n', 'é', '€', 'b']
    let edits : List Edit :=
      [⟨2, 0, some ['x']⟩, ⟨2, 2, some ['É', '\n']⟩, ⟨2, 0, some ['y']⟩, ⟨7, 1, none⟩]
    let edited : Document := ⟨['a', '\n', 'y', 'x', 'É', '\n', '€'], .crlf, [1, 6], true⟩
    document.apply 7 ⟨edits, none, true⟩ = .ok (⟨7, 4, true⟩, edited) ∧
      Edit.ascending edits =
        [⟨2, 0, some ['y']⟩, ⟨2, 0, some ['x']⟩, ⟨2, 2, some ['É', '\n']⟩, ⟨7, 1, none⟩] ∧
      Edit.IsAscending edits (Edit.ascending edits) ∧
      edited.chars = Edit.substitute document.chars edits := by
  intro document edits edited
  have accepted : document.apply 7 ⟨edits, none, true⟩ = .ok (⟨7, 4, true⟩, edited) := by
    decide +kernel
  obtain ⟨ascending, chars, -, -⟩ := apply_substitutes accepted
  exact ⟨accepted, rfl, (ascending _).mpr rfl, chars⟩

/-- The host gets back its own line breaks wherever it is not edited, and new text in the line
ending of the document. -/
theorem apply_substitutes_host
    {document edited : Document} {cursor : Nat} {batch : Batch} {applied : Applied}
    (reached : document.Reachable)
    (accepted : document.apply cursor batch = .ok (applied, edited)) :
    (∀ ordered, Edit.IsAscending batch.edits ordered ↔ ordered = Edit.ascending batch.edits) ∧
      edited.hostText = document.substituteHost batch.edits ∧
      edited.lineEnding = document.lineEnding := by
  obtain ⟨checked, staged, -⟩ := apply_eq_ok_iff.mp accepted
  have editedSound := (reached.applied accepted).sound
  have shown :=
    Rendering.host.keep_of_stage reached.sound (Edit.descends_of_validate checked) staged
  rw [host_keep_size editedSound] at shown
  exact ⟨fun _ => Edit.isAscending_iff, shown, lineEnding_of_stage staged⟩

/-- In a text of mixed line breaks, a CRLF and an LF are replaced by a break each, and new breaks
come right before a CRLF that stays. -/
theorem apply_substitutes_host_mixed :
    let document := Document.ofHostText ['a', '\r', '\n', 'b', '\n', 'é', '\r', '\n', 'c', '\n']
    let edits : List Edit :=
      [⟨6, 0, some ['\n', '\n']⟩, ⟨1, 1, some ['\n', 'x']⟩, ⟨3, 1, some ['\n']⟩]
    let edited : Document :=
      ⟨['a', '\n', 'x', 'b', '\n', 'é', '\n', '\n', '\n', 'c', '\n'], .crlf, [1, 4, 7, 8, 9], true⟩
    document.apply 0 ⟨edits, none, false⟩ = .ok (⟨0, 3, false⟩, edited) ∧
      edited.hostText = document.substituteHost edits ∧
      edited.hostText =
        ['a', '\r', '\n', 'x', 'b', '\r', '\n', 'é', '\r', '\n', '\r', '\n', '\r', '\n',
          'c', '\n'] := by
  intro document edits edited
  have accepted : document.apply 0 ⟨edits, none, false⟩ = .ok (⟨0, 3, false⟩, edited) := by
    decide +kernel
  obtain ⟨-, hostText, -⟩ := apply_substitutes_host (Reachable.loaded _) accepted
  refine ⟨accepted, hostText, ?_⟩
  decide +kernel

end Document

end Reformat
