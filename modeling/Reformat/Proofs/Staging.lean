import Reformat.Proofs.Replacement

/-!
Edits made one after the other, from the highest down. Main statements: a checked batch is one whose
spans fit the document and lie one above the other, and the edits of such a batch can all be made.
-/

namespace Reformat.Edit

/-! ## Checked batches -/

/-- The span of an edit fits 64 bits and a text, and parts no character. -/
structure Fits (text : Text) (edit : Edit) : Prop where
  representable : edit.stop < UInt64.size
  bounded : edit.stop ≤ Utf8.size text
  first : IsBoundary text edit.offset
  last : IsBoundary text edit.stop

/-- The second edit ends before the first one begins. -/
def IsAbove (upper lower : Edit) : Prop :=
  lower.stop ≤ upper.offset

theorem offset_le_stop (edit : Edit) : edit.offset ≤ edit.stop :=
  Nat.le_add_right _ _

theorem Fits.isSpan {document : Document} {edit : Edit} (fits : edit.Fits document.chars) :
    document.IsSpan edit.offset edit.stop :=
  ⟨edit.offset_le_stop, fits.first, fits.last⟩

theorem filter_stop?_of_inside {edit : Edit} {size : Nat}
    (inside : edit.stop < UInt64.size ∧ edit.stop ≤ size) :
    edit.stop?.filter (· ≤ size) = some edit.stop := by
  simp [stop?, inside.1, inside.2]

theorem filter_stop?_of_outside {edit : Edit} {size : Nat}
    (outside : ¬ (edit.stop < UInt64.size ∧ edit.stop ≤ size)) :
    edit.stop?.filter (· ≤ size) = none := by
  unfold stop?
  split
  · rename_i representable
    have tooLong : size < edit.stop := by omega
    simp [tooLong]
  · rfl

theorem place_eq_ok_iff {document : Document} {edit : Edit} {span : Span} :
    edit.place document = .ok span ↔
      edit.Fits document.chars ∧ ⟨edit.offset, edit.stop⟩ = span := by
  unfold place
  by_cases inside : edit.stop < UInt64.size ∧ edit.stop ≤ document.size
  · simp only [filter_stop?_of_inside inside, bind_eq_ok_iff, Document.charAtByte_eq_ok_iff]
    constructor
    · rintro ⟨_, ⟨first, -⟩, _, ⟨last, -⟩, result⟩
      exact ⟨⟨inside.1, inside.2, first, last⟩, Except.ok.inj result⟩
    · rintro ⟨fits, rfl⟩
      exact ⟨_, ⟨fits.first, rfl⟩, _, ⟨fits.last, rfl⟩, rfl⟩
  · have unfit : ¬ edit.Fits document.chars := fun fits =>
      inside ⟨fits.representable, fits.bounded⟩
    simp [filter_stop?_of_outside inside, unfit, throw, throwThe, MonadExceptOf.throw]

theorem validate_cons_eq_ok_iff
    {document : Document} {upper : Option Span} {edit : Edit} {rest : List Edit} :
    validate document upper (edit :: rest) = .ok () ↔
      edit.Fits document.chars ∧ (∀ span ∈ upper, edit.stop ≤ span.start) ∧
        validate document (some ⟨edit.offset, edit.stop⟩) rest = .ok () := by
  rw [validate]
  simp only [bind_eq_ok_iff, place_eq_ok_iff, and_assoc, exists_eq_left', exists_and_left]
  cases upper with
  | none => simp
  | some span => simp [guard_eq_ok_iff]

/-- Checking neighbours is enough for all, since each edit ends behind its own start. -/
theorem validate_eq_ok_iff
    {document : Document} {upper : Option Span} {edits : List Edit} :
    validate document upper edits = .ok () ↔
      (∀ edit ∈ edits, edit.Fits document.chars) ∧
        (∀ span ∈ upper, ∀ edit ∈ edits, edit.stop ≤ span.start) ∧
          edits.Pairwise IsAbove := by
  induction edits generalizing upper with
  | nil => simp [validate, pure, Except.pure]
  | cons head tail ih =>
      rw [validate_cons_eq_ok_iff, ih, List.pairwise_cons, List.forall_mem_cons]
      constructor
      · rintro ⟨headFits, headBelow, tailFits, tailBelow, sorted⟩
        have below : ∀ edit ∈ tail, edit.stop ≤ head.offset := tailBelow _ rfl
        refine ⟨⟨headFits, tailFits⟩, ?_, below, sorted⟩
        intro span found
        rw [List.forall_mem_cons]
        refine ⟨headBelow span found, ?_⟩
        intro edit member
        exact Nat.le_trans (below edit member)
          (Nat.le_trans head.offset_le_stop (headBelow span found))
      · rintro ⟨⟨headFits, tailFits⟩, allBelow, below, sorted⟩
        refine ⟨headFits, ?_, tailFits, ?_, sorted⟩
        · intro span found
          exact allBelow span found head List.mem_cons_self
        · rintro span ⟨⟩
          exact below

/-! ## Edits one after the other -/

/-- The document after a single edit. -/
def performed (document : Document) (edit : Edit) : Document :=
  document.replaced edit.offset edit.stop edit.inserted

theorem stage_cons_eq_ok_iff
    {document edited : Document} {edit : Edit} {rest : List Edit} :
    stage document (edit :: rest) = .ok edited ↔
      document.IsSpan edit.offset edit.stop ∧
        stage (performed document edit) rest = .ok edited := by
  rw [stage]
  simp only [bind_eq_ok_iff, Document.replace_eq_ok_iff]
  constructor
  · rintro ⟨next, ⟨span, rfl⟩, staged⟩
    exact ⟨span, staged⟩
  · rintro ⟨span, staged⟩
    exact ⟨_, ⟨span, rfl⟩, staged⟩

/-- What each replacement preserves, edits made one after the other preserve. -/
theorem stage_induction
    {document edited : Document} {edits : List Edit} {motive : Document → Prop}
    (step : ∀ {document : Document} {start stop : Nat} {text : Text},
      document.IsSpan start stop → motive document →
        motive (document.replaced start stop text))
    (staged : stage document edits = .ok edited) (holds : motive document) :
    motive edited := by
  induction edits generalizing document with
  | nil =>
      cases staged
      exact holds
  | cons head rest ih =>
      obtain ⟨span, restStaged⟩ := stage_cons_eq_ok_iff.mp staged
      exact ih restStaged (step span holds)

theorem stage_append_eq_ok_iff
    {document edited : Document} {first second : List Edit} :
    stage document (first ++ second) = .ok edited ↔
      ∃ middle, stage document first = .ok middle ∧ stage middle second = .ok edited := by
  induction first generalizing document with
  | nil => simp [stage, pure, Except.pure]
  | cons head tail ih =>
      simp only [List.cons_append, stage_cons_eq_ok_iff, ih, and_assoc, exists_and_left]

/-- The stage at which one of the edits is made. -/
theorem exists_stage_at
    {document edited : Document} {higher lower : List Edit} {edit : Edit}
    (staged : stage document (higher ++ edit :: lower) = .ok edited) :
    ∃ middle, stage document higher = .ok middle ∧ middle.IsSpan edit.offset edit.stop ∧
      stage document (higher ++ [edit]) = .ok (performed middle edit) ∧
        stage (performed middle edit) lower = .ok edited := by
  obtain ⟨middle, higherStaged, restStaged⟩ := stage_append_eq_ok_iff.mp staged
  obtain ⟨span, lowerStaged⟩ := stage_cons_eq_ok_iff.mp restStaged
  have editStaged : stage middle [edit] = .ok (performed middle edit) :=
    stage_cons_eq_ok_iff.mpr ⟨span, rfl⟩
  exact ⟨middle, higherStaged, span,
    stage_append_eq_ok_iff.mpr ⟨middle, higherStaged, editStaged⟩, lowerStaged⟩

/-- Edits that can be made one after the other: each has a span of the document, and each comes
after those above it. -/
structure Descends (document : Document) (edits : List Edit) : Prop where
  spans : ∀ edit ∈ edits, document.IsSpan edit.offset edit.stop
  sorted : edits.Pairwise IsAbove

namespace Descends

variable {document : Document} {edit : Edit} {rest : List Edit}

theorem span (descends : Descends document (edit :: rest)) :
    document.IsSpan edit.offset edit.stop :=
  descends.spans edit List.mem_cons_self

theorem below (descends : Descends document (edit :: rest)) :
    ∀ lower ∈ rest, lower.stop ≤ edit.offset :=
  (List.pairwise_cons.mp descends.sorted).1

theorem of_sublist {part edits : List Edit}
    (descends : Descends document edits) (sublist : part.Sublist edits) :
    Descends document part :=
  ⟨fun edit member => descends.spans edit (sublist.mem member), descends.sorted.sublist sublist⟩

/-- In the reverse order they ascend, and end within any limit that each of them ends within. -/
theorem reverse {edits : List Edit} {limit : Nat}
    (descends : Descends document edits) (below : ∀ edit ∈ edits, edit.stop ≤ limit) :
    (∀ edit ∈ edits.reverse,
      IsBoundary document.chars edit.offset ∧ IsBoundary document.chars edit.stop ∧
        0 ≤ edit.offset ∧ edit.stop ≤ limit) ∧
      edits.reverse.Pairwise fun lower upper => lower.stop ≤ upper.offset := by
  constructor
  · intro edit member
    have given := List.mem_reverse.mp member
    have span := descends.spans edit given
    exact ⟨span.first, span.last, Nat.zero_le _, below edit given⟩
  · exact List.pairwise_reverse.mpr descends.sorted

/-- The edits that still wait keep their spans, since all that moves lies above them. -/
theorem tail (descends : Descends document (edit :: rest)) :
    Descends (performed document edit) rest := by
  refine ⟨?_, (List.pairwise_cons.mp descends.sorted).2⟩
  intro lower member
  have reach := descends.below lower member
  have span := descends.spans lower (List.mem_cons_of_mem edit member)
  have first := descends.span.isBoundary_below_iff edit.inserted
    (Nat.le_trans lower.offset_le_stop reach)
  have last := descends.span.isBoundary_below_iff edit.inserted reach
  exact ⟨span.order, first.mpr span.first, last.mpr span.last⟩

theorem drop {document middle : Document} {first second : List Edit}
    (descends : Descends document (first ++ second))
    (staged : stage document first = .ok middle) :
    Descends middle second := by
  induction first generalizing document with
  | nil =>
      cases staged
      exact descends
  | cons head rest ih =>
      exact ih descends.tail (stage_cons_eq_ok_iff.mp staged).2

theorem bounds {higher lower : List Edit}
    (descends : Descends document (higher ++ edit :: lower)) :
    (∀ made ∈ higher ++ [edit], edit.offset ≤ made.offset) ∧
      ∀ waiting ∈ lower, waiting.stop ≤ edit.offset := by
  obtain ⟨-, restSorted, apart⟩ := List.pairwise_append.mp descends.sorted
  constructor
  · intro made member
    rcases List.mem_append.mp member with above | last
    · have bound := apart made above edit List.mem_cons_self
      exact Nat.le_trans edit.offset_le_stop bound
    · have same : made = edit := List.mem_singleton.mp last
      exact Nat.le_of_eq (congrArg Edit.offset same.symm)
  · exact (List.pairwise_cons.mp restSorted).1

end Descends

theorem exists_stage_eq_ok {document : Document} {edits : List Edit}
    (descends : Descends document edits) :
    ∃ edited, stage document edits = .ok edited := by
  induction edits generalizing document with
  | nil => exact ⟨document, rfl⟩
  | cons head rest ih =>
      obtain ⟨edited, staged⟩ := ih descends.tail
      exact ⟨edited, stage_cons_eq_ok_iff.mpr ⟨descends.span, staged⟩⟩

end Reformat.Edit
