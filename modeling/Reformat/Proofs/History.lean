import Reformat.Format.Operation
import Reformat.Proofs.Cuts
import Reformat.Proofs.InPlace
import Reformat.Proofs.Reachability

/-!
Documents under use. Main statements: whatever is done with a loaded document, and whatever those
who help to format it answer, its remembered breaks stand at LFs of the text in ascending order, so
that the host text is cut out of it at characters alone, is longer by one CR for each break, and
without these is the text.
-/

namespace Reformat

theorem run_bind_eq_ok_iff
    {ε α β : Type} {first : ExceptT ε Id α} {next : α → ExceptT ε Id β} {result : β} :
    Id.run (ExceptT.run (first >>= next)) = .ok result ↔
      ∃ value, Id.run (ExceptT.run first) = .ok value ∧
        Id.run (ExceptT.run (next value)) = .ok result := by
  rw [ExceptT.run_bind]
  cases outcome : Id.run (ExceptT.run first) with
  | error cause => simp [outcome]
  | ok value => simp [outcome]

namespace Document

/-! ## What is done with a document -/

/-- Something that is done with a document at hand. Those who help to format it may answer anything
and need not answer alike from one step to the next. -/
inductive Step where
  | apply (cursor : Nat) (batch : Batch)
  | formatBuffer (formatter : Formatter Id) (cursor : Nat) (style : Style)
  | formatRegion (formatter : Formatter Id) (start stop cursor : Nat) (style : Style)
  | formatChangedLines
      (formatter : Formatter Id) (compare : Comparer Id) (archive : Archive Id)
      (path : Option Path) (revision : Text) (cursor : Nat) (style : Style)
  | markClean

/-- The document at hand after an operation; a failure leaves it as it was. -/
def settle (document : Document) (operation : ExceptT Failure Id (Outcome × Document)) : Document :=
  match Id.run (ExceptT.run operation) with
  | .ok (_, edited) => edited
  | .error _ => document

def take (document : Document) : Step → Document
  | .apply cursor batch => ((applyHere cursor batch).on document).2
  | .formatBuffer formatter cursor style =>
      document.settle (document.formatBuffer formatter cursor style)
  | .formatRegion formatter start stop cursor style =>
      document.settle (document.formatRegion formatter start stop cursor style)
  | .formatChangedLines formatter compare archive path revision cursor style =>
      document.settle
        (document.formatChangedLines formatter compare archive path revision cursor style)
  | .markClean => document.markClean

section

variable {document edited : Document} {formatter : Formatter Id} {outcome : Outcome}

theorem format_eq_ok_iff {cursor : Nat} {style : Style} {restriction : Restriction} :
    Id.run (ExceptT.run (document.format formatter cursor style restriction)) =
        .ok (outcome, edited) ↔
      ∃ batch applied,
        Id.run
            (ExceptT.run
              (formatter document.bytes ⟨style, restriction, document.byteOfChar cursor⟩)) =
          .ok batch ∧
        document.apply (document.byteOfChar cursor) batch = .ok (applied, edited) ∧
        outcome = .formatted applied := by
  unfold format
  simp only [run_bind_eq_ok_iff]
  refine exists_congr fun batch => ?_
  rw [exists_and_left]
  refine and_congr_right fun _ => ?_
  cases accepted : document.apply (document.byteOfChar cursor) batch with
  | error cause => simp
  | ok success => simp [Prod.ext_iff, and_comm, eq_comm]

theorem formatChangedLines_eq_ok_iff
    {compare : Comparer Id} {archive : Archive Id} {path : Option Path} {revision : Text}
    {cursor : Nat} {style : Style} :
    Id.run
        (ExceptT.run
          (document.formatChangedLines formatter compare archive path revision cursor style)) =
        .ok (outcome, edited) ↔
      ∃ file baseline ranges,
        path = some file ∧
        Id.run (ExceptT.run (archive file revision)) = .ok baseline ∧
        Id.run (ExceptT.run (compare (canonicalizeBytes baseline) document.bytes)) = .ok ranges ∧
        (ranges = [] ∧ outcome = .unchanged ∧ edited = document ∨
          ranges ≠ [] ∧
            Id.run
                (ExceptT.run
                  (document.format formatter cursor (style.withDefaultFilename file)
                    (.lines ranges))) =
              .ok (outcome, edited)) := by
  cases path with
  | none => simp [formatChangedLines]
  | some path =>
      simp only [formatChangedLines, run_bind_eq_ok_iff, Option.some.injEq, exists_and_left,
        exists_eq_left']
      refine exists_congr fun baseline => and_congr_right fun _ => exists_congr fun ranges =>
        and_congr_right fun _ => ?_
      by_cases same : ranges = []
      · simp [Restriction.ofChangedLines?, same, eq_comm]
      · simp [Restriction.ofChangedLines?, same]

theorem exists_apply_of_format
    {cursor : Nat} {style : Style} {restriction : Restriction}
    (formatted :
      Id.run (ExceptT.run (document.format formatter cursor style restriction)) =
        .ok (outcome, edited)) :
    ∃ offset batch applied, document.apply offset batch = .ok (applied, edited) := by
  obtain ⟨batch, applied, -, accepted, -⟩ := format_eq_ok_iff.mp formatted
  exact ⟨_, batch, applied, accepted⟩

theorem exists_apply_of_formatChangedLines
    {compare : Comparer Id} {archive : Archive Id} {path : Option Path} {revision : Text}
    {cursor : Nat} {style : Style}
    (formatted :
      Id.run
          (ExceptT.run
            (document.formatChangedLines formatter compare archive path revision cursor style)) =
        .ok (outcome, edited)) :
    edited = document ∨
      ∃ offset batch applied, document.apply offset batch = .ok (applied, edited) := by
  obtain ⟨_, _, _, -, -, -, unchanged | changed⟩ := formatChangedLines_eq_ok_iff.mp formatted
  · exact Or.inl unchanged.2.2
  · exact Or.inr (exists_apply_of_format changed.2)

end

/-- An operation that succeeds either leaves the document or applies a batch to it. -/
theorem Reachable.settle
    {document : Document} {operation : ExceptT Failure Id (Outcome × Document)}
    (reached : document.Reachable)
    (applies : ∀ outcome edited, Id.run (ExceptT.run operation) = .ok (outcome, edited) →
      edited = document ∨
        ∃ offset batch applied, document.apply offset batch = .ok (applied, edited)) :
    (document.settle operation).Reachable := by
  unfold Document.settle
  cases result : Id.run (ExceptT.run operation) with
  | error cause => exact reached
  | ok success =>
      obtain ⟨outcome, edited⟩ := success
      rcases applies outcome edited result with rfl | ⟨_, _, _, accepted⟩
      · exact reached
      · exact reached.applied accepted

theorem Reachable.take
    {document : Document} (reached : document.Reachable) (step : Step) :
    (document.take step).Reachable := by
  cases step with
  | apply cursor batch =>
      change ((applyHere cursor batch).on document).2.Reachable
      rw [on_applyHere]
      cases result : document.apply cursor batch with
      | error cause => exact reached
      | ok success => exact reached.applied result
  | formatBuffer formatter cursor style =>
      exact reached.settle fun _ _ formatted => Or.inr (exists_apply_of_format formatted)
  | formatRegion formatter start stop cursor style =>
      exact reached.settle fun _ _ formatted => Or.inr (exists_apply_of_format formatted)
  | formatChangedLines formatter compare archive path revision cursor style =>
      exact reached.settle fun _ _ formatted => exists_apply_of_formatChangedLines formatted
  | markClean => exact reached.cleaned

theorem Reachable.takeAll
    {document : Document} (reached : document.Reachable) (steps : List Step) :
    (steps.foldl Document.take document).Reachable := by
  induction steps generalizing document with
  | nil => exact reached
  | cons step rest ih => exact ih (reached.take step)

/-- Whatever is done with a loaded document, its breaks fit the text: the host text is made up of
pieces between characters, has one CR more for each break, and is the text without them. -/
theorem breaks_fit_of_steps (host : Text) (steps : List Step) :
    let document := steps.foldl Document.take (ofHostText host)
    document.BreaksFit ∧
      document.hostText? = some document.hostText ∧
      Utf8.size document.hostText = document.size + document.crlfBreaks.length ∧
      dropReturns (returnOffsets document.crlfBreaks 0) 0 document.hostText = document.chars := by
  intro document
  have sound : document.Sound := ((Reachable.loaded host).takeAll steps).sound
  have cuts := sound.cuts
  have size := cuts.size_insertReturns
  have text := cuts.dropReturns_insertReturns 0
  rw [Nat.zero_add] at size
  rw [slice_size] at text
  exact ⟨sound.breaksFit, cuts.insertReturns?_eq, size, text⟩

-- a document that nothing has been loaded into is that of the empty text
example : empty = ofHostText [] := rfl

end Document

end Reformat
