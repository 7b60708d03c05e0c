import Mathlib.Data.List.DropRight
import Reformat.Proofs.History
import Reformat.Proofs.Loading

/-!
Whether a document has been edited since it was loaded or last marked as clean. Main statement: the
document says so just where a batch with edits in it has been applied since then, and as long as it
does not, its text and the host text are what they were.
-/

namespace Reformat.Document

/-! ## Steps that edit -/

/-- The formatter answers a request with a batch, which the document takes. -/
structure FormatsTo
    (document : Document) (formatter : Formatter Id) (cursor : Nat) (style : Style)
    (restriction : Restriction) (batch : Batch) (edited : Document) : Prop where
  answered :
    Id.run
        (ExceptT.run (formatter document.bytes ⟨style, restriction, document.byteOfChar cursor⟩)) =
      .ok batch
  accepted : ∃ applied, document.apply (document.byteOfChar cursor) batch = .ok (applied, edited)

/-- A step that gets as far as applying a batch, with success. -/
inductive Applies (document : Document) : Step → Batch → Document → Prop where
  | apply {cursor : Nat} {batch : Batch} {applied : Applied} {edited : Document}
      (accepted : document.apply cursor batch = .ok (applied, edited)) :
      Applies document (.apply cursor batch) batch edited
  | formatBuffer {formatter : Formatter Id} {cursor : Nat} {style : Style} {batch : Batch}
      {edited : Document}
      (formats :
        document.FormatsTo formatter cursor style (.bytes 0 document.size) batch edited) :
      Applies document (.formatBuffer formatter cursor style) batch edited
  | formatRegion {formatter : Formatter Id} {start stop cursor : Nat} {style : Style}
      {batch : Batch} {edited : Document}
      (formats :
        document.FormatsTo formatter cursor style (document.region start stop) batch edited) :
      Applies document (.formatRegion formatter start stop cursor style) batch edited
  | formatChangedLines {formatter : Formatter Id} {compare : Comparer Id} {archive : Archive Id}
      {file : Path} {revision : Text} {cursor : Nat} {style : Style} {baseline : Bytes}
      {ranges : List LineRange} {batch : Batch} {edited : Document}
      (archived : Id.run (ExceptT.run (archive file revision)) = .ok baseline)
      (compared :
        Id.run (ExceptT.run (compare (canonicalizeBytes baseline) document.bytes)) = .ok ranges)
      (changes : ranges ≠ [])
      (formats :
        document.FormatsTo formatter cursor (style.withDefaultFilename file) (.lines ranges)
          batch edited) :
      Applies document
        (.formatChangedLines formatter compare archive (some file) revision cursor style)
        batch edited

/-- A step that applies a batch with edits in it. -/
def Edits (document : Document) (step : Step) : Prop :=
  ∃ batch edited, document.Applies step batch edited ∧ batch.edits ≠ []

section

variable {document edited : Document} {step : Step} {batch : Batch} {cursor : Nat}
  {formatter : Formatter Id} {style : Style} {restriction : Restriction} {applied : Applied}

theorem FormatsTo.settle_eq
    (formats : document.FormatsTo formatter cursor style restriction batch edited) :
    document.settle (document.format formatter cursor style restriction) = edited := by
  obtain ⟨applied, accepted⟩ := formats.accepted
  have formatted := format_eq_ok_iff.mpr ⟨batch, applied, formats.answered, accepted, rfl⟩
  rw [settle, formatted]

theorem settle_cases
    (document : Document) (operation : ExceptT Failure Id (Outcome × Document)) :
    document.settle operation = document ∨
      ∃ outcome, Id.run (ExceptT.run operation) = .ok (outcome, document.settle operation) := by
  unfold settle
  cases Id.run (ExceptT.run operation) with
  | error cause => exact Or.inl rfl
  | ok success => exact Or.inr ⟨success.1, rfl⟩

theorem exists_formatsTo {outcome : Outcome}
    (formatted :
      Id.run (ExceptT.run (document.format formatter cursor style restriction)) =
        .ok (outcome, edited)) :
    ∃ batch, document.FormatsTo formatter cursor style restriction batch edited := by
  obtain ⟨batch, applied, answered, accepted, -⟩ := format_eq_ok_iff.mp formatted
  exact ⟨batch, answered, applied, accepted⟩

theorem Applies.exists_apply (applies : document.Applies step batch edited) :
    ∃ cursor applied, document.apply cursor batch = .ok (applied, edited) := by
  cases applies with
  | apply accepted => exact ⟨_, _, accepted⟩
  | formatBuffer formats => exact ⟨_, formats.accepted⟩
  | formatRegion formats => exact ⟨_, formats.accepted⟩
  | formatChangedLines archived compared changes formats => exact ⟨_, formats.accepted⟩

theorem Applies.take_eq (applies : document.Applies step batch edited) :
    document.take step = edited := by
  cases applies with
  | @apply cursor batch _ _ accepted =>
      change ((applyHere cursor batch).on document).2 = edited
      rw [on_applyHere, accepted]
  | formatBuffer formats => exact formats.settle_eq
  | formatRegion formats => exact formats.settle_eq
  | formatChangedLines archived compared changes formats =>
      obtain ⟨applied, accepted⟩ := formats.accepted
      have formatted := format_eq_ok_iff.mpr ⟨_, applied, formats.answered, accepted, rfl⟩
      have changed := formatChangedLines_eq_ok_iff.mpr
        ⟨_, _, _, rfl, archived, compared, Or.inr ⟨changes, formatted⟩⟩
      rw [take, settle, changed]

/-- A step other than a mark leaves the document, unless it applies a batch to it. -/
theorem take_cases (document : Document) {step : Step} (unmarked : step ≠ .markClean) :
    document.take step = document ∨ ∃ batch, document.Applies step batch (document.take step) := by
  cases step with
  | apply cursor batch =>
      change ((applyHere cursor batch).on document).2 = document ∨
        ∃ made, document.Applies (.apply cursor batch) made
          ((applyHere cursor batch).on document).2
      rw [on_applyHere]
      cases result : document.apply cursor batch with
      | error cause => exact Or.inl rfl
      | ok success => exact Or.inr ⟨batch, .apply result⟩
  | formatBuffer formatter cursor style =>
      refine (document.settle_cases _).imp_right fun ⟨outcome, formatted⟩ => ?_
      obtain ⟨batch, formats⟩ := exists_formatsTo formatted
      exact ⟨batch, .formatBuffer formats⟩
  | formatRegion formatter start stop cursor style =>
      refine (document.settle_cases _).imp_right fun ⟨outcome, formatted⟩ => ?_
      obtain ⟨batch, formats⟩ := exists_formatsTo formatted
      exact ⟨batch, .formatRegion formats⟩
  | formatChangedLines formatter compare archive path revision cursor style =>
      rcases document.settle_cases
          (document.formatChangedLines formatter compare archive path revision cursor style) with
        same | ⟨outcome, formatted⟩
      · exact Or.inl same
      · obtain ⟨file, baseline, ranges, rfl, archived, compared, ended⟩ :=
          formatChangedLines_eq_ok_iff.mp formatted
        rcases ended with unchanged | ⟨changes, formatted⟩
        · exact Or.inl unchanged.2.2
        · obtain ⟨batch, formats⟩ := exists_formatsTo formatted
          exact Or.inr ⟨batch, .formatChangedLines archived compared changes formats⟩
  | markClean => exact absurd rfl unmarked

theorem Edits.dirty_take (edits : document.Edits step) : (document.take step).dirty = true := by
  obtain ⟨batch, edited, applies, some⟩ := edits
  obtain ⟨_, _, accepted⟩ := applies.exists_apply
  rw [applies.take_eq]
  exact dirty_of_apply accepted some

theorem take_eq_self (unmarked : step ≠ .markClean) (idle : ¬ document.Edits step) :
    document.take step = document := by
  rcases document.take_cases unmarked with same | ⟨batch, applies⟩
  · exact same
  · obtain ⟨_, _, accepted⟩ := applies.exists_apply
    exact eq_of_apply_nil accepted (by_contra fun some => idle ⟨batch, _, applies, some⟩)

end

/-! ## Runs -/

namespace Step

def isMark : Step → Bool
  | .markClean => true
  | _ => false

theorem isMark_iff {step : Step} : step.isMark = true ↔ step = .markClean := by
  cases step <;> simp [isMark]

end Step

/-- The steps of a run up to the last one that marks the document as clean. -/
def upToMark (steps : List Step) : List Step :=
  steps.rdropWhile fun step => !step.isMark

/-- The steps behind the last one that marks the document as clean. -/
def sinceMark (steps : List Step) : List Step :=
  steps.rtakeWhile fun step => !step.isMark

/-- One of the steps edits the document as it is when the step is taken. -/
def EditsAmong (document : Document) (steps : List Step) : Prop :=
  ∃ before step after,
    steps = before ++ step :: after ∧ (before.foldl take document).Edits step

section

variable {document : Document} {step : Step} {steps : List Step}

theorem upToMark_append_sinceMark (steps : List Step) :
    upToMark steps ++ sinceMark steps = steps :=
  List.rdropWhile_append_rtakeWhile

theorem ne_markClean_of_mem_sinceMark (member : step ∈ sinceMark steps) : step ≠ .markClean := by
  rintro rfl
  exact absurd (List.mem_rtakeWhile_imp member) (by simp [Step.isMark])

theorem clean_upToMark (host : Text) (steps : List Step) :
    ((upToMark steps).foldl take (ofHostText host)).dirty = false := by
  by_cases nothing : upToMark steps = []
  · rw [nothing]
    rfl
  · have last : (upToMark steps).getLast nothing = .markClean := by
      have kept := List.rdropWhile_last_not _ _ nothing
      rw [Bool.not_eq_true', Bool.not_eq_false] at kept
      exact Step.isMark_iff.mp kept
    rw [← List.dropLast_append_getLast nothing, last, List.foldl_append]
    rfl

theorem editsAmong_cons_iff :
    document.EditsAmong (step :: steps) ↔
      document.Edits step ∨ (document.take step).EditsAmong steps := by
  constructor
  · rintro ⟨before, made, after, shape, edits⟩
    cases before with
    | nil =>
        obtain ⟨rfl, rfl⟩ := List.cons.inj shape
        exact Or.inl edits
    | cons first before =>
        obtain ⟨rfl, rest⟩ := List.cons.inj shape
        exact Or.inr ⟨before, made, after, rest, edits⟩
  · rintro (edits | ⟨before, made, after, rfl, edits⟩)
    · exact ⟨[], step, steps, rfl, edits⟩
    · exact ⟨step :: before, made, after, rfl, edits⟩

theorem not_editsAmong_nil (document : Document) : ¬ document.EditsAmong [] := by
  rintro ⟨before, step, after, shape, -⟩
  simp at shape

/-- What a document says about one step. -/
theorem dirty_take_iff (unmarked : step ≠ .markClean) :
    (document.take step).dirty = true ↔ document.dirty = true ∨ document.Edits step := by
  by_cases edits : document.Edits step
  · simp [edits, edits.dirty_take]
  · simp [edits, take_eq_self unmarked edits]

theorem dirty_foldl_take_iff (unmarked : ∀ step ∈ steps, step ≠ .markClean) :
    (steps.foldl take document).dirty = true ↔
      document.dirty = true ∨ document.EditsAmong steps := by
  induction steps generalizing document with
  | nil => simp [not_editsAmong_nil]
  | cons step rest ih =>
      obtain ⟨first, others⟩ := List.forall_mem_cons.mp unmarked
      rw [List.foldl_cons, ih others, dirty_take_iff first, editsAmong_cons_iff, or_assoc]

theorem foldl_take_eq_self
    (unmarked : ∀ step ∈ steps, step ≠ .markClean) (idle : ¬ document.EditsAmong steps) :
    steps.foldl take document = document := by
  induction steps generalizing document with
  | nil => rfl
  | cons step rest ih =>
      obtain ⟨first, others⟩ := List.forall_mem_cons.mp unmarked
      rw [editsAmong_cons_iff, not_or] at idle
      have same := take_eq_self first idle.1
      rw [same] at idle
      rw [List.foldl_cons, same]
      exact ih others idle.2

theorem markClean_eq_self (clean : document.dirty = false) : document.markClean = document := by
  rw [markClean, ← clean]

/-- A document that is clean at every point of a run is left alone, marks or no marks. -/
theorem foldl_take_eq_self_of_clean
    (clean : ∀ count ≤ steps.length, ((steps.take count).foldl take document).dirty = false) :
    steps.foldl take document = document := by
  induction steps generalizing document with
  | nil => rfl
  | cons step rest ih =>
      have before : document.dirty = false := clean 0 (Nat.zero_le _)
      have after : (document.take step).dirty = false := clean 1 (Nat.succ_le_succ (Nat.zero_le _))
      have same : document.take step = document := by
        by_cases marked : step = .markClean
        · rw [marked]
          exact markClean_eq_self before
        · refine take_eq_self marked fun edits => ?_
          rw [edits.dirty_take] at after
          cases after
      rw [List.foldl_cons, same]
      refine ih fun count bound => ?_
      have later := clean (count + 1) (Nat.succ_le_succ bound)
      rwa [List.take_succ_cons, List.foldl_cons, same] at later

end

/-- In every run, a document is dirty just where a batch with edits in it has been applied since it
was loaded or last marked as clean. As long as it is not, it has the text and the host text of that
point, and these are the loaded ones if it never was. -/
theorem dirty_iff_edited_since_mark (host : Text) (steps : List Step) :
    let marked := (upToMark steps).foldl take (ofHostText host)
    let document := steps.foldl take (ofHostText host)
    (document.dirty = true ↔ marked.EditsAmong (sinceMark steps)) ∧
    (document.dirty = false →
      document.chars = marked.chars ∧ document.hostText = marked.hostText) ∧
    ((∀ count ≤ steps.length, ((steps.take count).foldl take (ofHostText host)).dirty = false) →
      document.chars = canonicalize host ∧ document.hostText = host) := by
  intro marked document
  have split : document = (sinceMark steps).foldl take marked := by
    rw [← List.foldl_append, upToMark_append_sinceMark]
  have unmarked : ∀ step ∈ sinceMark steps, step ≠ .markClean :=
    fun _ => ne_markClean_of_mem_sinceMark
  have soundness : document.dirty = true ↔ marked.EditsAmong (sinceMark steps) := by
    rw [split, dirty_foldl_take_iff unmarked, clean_upToMark]
    simp
  refine ⟨soundness, fun clean => ?_, fun clean => ?_⟩
  · have idle : ¬ marked.EditsAmong (sinceMark steps) := by
      rw [← soundness, clean]
      exact Bool.false_ne_true
    have same : document = marked := split.trans (foldl_take_eq_self unmarked idle)
    rw [same]
    exact ⟨rfl, rfl⟩
  · have same : document = ofHostText host := foldl_take_eq_self_of_clean clean
    rw [same]
    exact ⟨rfl, hostText_of_loaded host⟩

/-- A batch without edits, one that is refused for its cursor and a formatter that fails leave a
document as it is, whether it has just been loaded or been edited and marked. -/
theorem dirty_iff_edited_since_mark_idle :
    let host := ['a', '\r', '\n', 'é']
    let style : Style := ⟨none, none, none⟩
    let idle : List Step :=
      [.formatBuffer (fun _ _ => pure ⟨[], some 2, false⟩) 0 style,
        .apply 0 ⟨[⟨0, 1, none⟩], some 9, false⟩,
        .formatRegion (fun _ _ => throw (.precondition .backingFile)) 0 1 0 style]
    let edited : List Step := [.apply 0 ⟨[⟨2, 0, some ['\n']⟩], none, false⟩, .markClean]
    let document := (edited ++ idle).foldl take (ofHostText host)
    document.dirty = false ∧ document.hostText = ['a', '\r', '\n', '\r', '\n', 'é'] ∧
      ((edited.take 1).foldl take (ofHostText host)).dirty = true ∧
      (ofHostText host).EditsAmong (edited.take 1) ∧
      (idle.foldl take (ofHostText host)).hostText = host := by
  intro host style idle edited document
  have clean : document.dirty = false := by decide +kernel
  have never :
      ∀ count ≤ idle.length, ((idle.take count).foldl take (ofHostText host)).dirty = false := by
    decide +kernel
  have marked : upToMark (edited ++ idle) = edited := rfl
  have kept := ((dirty_iff_edited_since_mark host (edited ++ idle)).2.1 clean).2
  have touched : ((edited.take 1).foldl take (ofHostText host)).dirty = true := by decide +kernel
  refine ⟨clean, kept.trans ?_, touched, (dirty_iff_edited_since_mark host _).1.mp touched,
    ((dirty_iff_edited_since_mark host idle).2.2 never).2⟩
  rw [marked]
  decide +kernel

end Reformat.Document
