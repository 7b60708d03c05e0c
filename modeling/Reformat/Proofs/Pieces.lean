import Reformat.Proofs.Rendering
import Reformat.Proofs.Staging

/-!
What a document shows after its edits. Main statements: after edits made from the highest down it
shows, in either rendering, what it showed between the spans and in their place what is new, and a
new text stands where the pieces below it end.
-/

namespace Reformat

namespace Edit

/-! ## Assembled pieces -/

section

variable {keep other : Nat → Nat → Text} {write : Text → Text} {limit size start : Nat}

theorem assemble_append_cons (lower : List Edit) (edit : Edit) (upper : List Edit) :
    assemble keep write size start (lower ++ edit :: upper) =
      assemble keep write edit.offset start lower ++ write edit.inserted ++
        assemble keep write size edit.stop upper := by
  induction lower generalizing start with
  | nil => rfl
  | cons head tail ih =>
      simp only [List.cons_append, assemble, ih, List.append_assoc]

/-- Pieces that agree up to a limit, behind which one side goes on. The edits ascend from
`start`. -/
theorem assemble_extend
    {boundary : Nat → Prop} {suffix : Text}
    (agree : ∀ {low high}, boundary low → boundary high → low ≤ high → high ≤ limit →
      other low high = keep low high)
    (last : ∀ {low}, boundary low → low ≤ limit → other low size = keep low limit ++ suffix)
    {edits : List Edit}
    (startBoundary : boundary start) (startBelow : start ≤ limit)
    (inside : ∀ edit ∈ edits,
      boundary edit.offset ∧ boundary edit.stop ∧ start ≤ edit.offset ∧ edit.stop ≤ limit)
    (sorted : edits.Pairwise fun lower upper => lower.stop ≤ upper.offset) :
    assemble other write size start edits =
      assemble keep write limit start edits ++ suffix := by
  induction edits generalizing start with
  | nil => exact last startBoundary startBelow
  | cons head tail ih =>
      obtain ⟨above, tailSorted⟩ := List.pairwise_cons.mp sorted
      obtain ⟨headOffset, headStop, reached, bounded⟩ := inside head List.mem_cons_self
      have order : head.offset ≤ head.stop := Nat.le_add_right _ _
      have tailInside :
          ∀ edit ∈ tail,
            boundary edit.offset ∧ boundary edit.stop ∧
              head.stop ≤ edit.offset ∧ edit.stop ≤ limit := by
        intro edit member
        obtain ⟨offset, stop, -, below⟩ := inside edit (List.mem_cons_of_mem head member)
        exact ⟨offset, stop, above edit member, below⟩
      have first := agree startBoundary headOffset reached (Nat.le_trans order bounded)
      have rest := ih headStop bounded tailInside tailSorted
      simp only [assemble, first, rest, List.append_assoc]

end

/-- Where an offset comes to lie when the edits below it, given in ascending order, are made. -/
def landing (text : Text) (offset : Nat) (lower : List Edit) : Nat :=
  Utf8.size (assemble (slice text) id offset 0 lower)

theorem landing_nil {text : Text} {offset : Nat} (boundary : IsBoundary text offset) :
    landing text offset [] = offset := by
  have width := size_slice (IsBoundary.zero text) boundary (Nat.zero_le _)
  rw [Nat.zero_add] at width
  exact width

end Edit

/-! ## Pieces carried by edits below them -/

namespace Rendering

variable (rendering : Rendering)

/-- The pieces up to an offset above an edit, before and after the edit is made. -/
theorem assemble_performed
    {document : Document} {edit : Edit} {rest : List Edit} {extra : Nat}
    (shown : rendering.shows document) (descends : Edit.Descends document (edit :: rest))
    (boundary : IsBoundary document.chars (edit.stop + extra)) :
    Edit.assemble (rendering.keep (Edit.performed document edit))
        (rendering.write (Edit.performed document edit))
        (edit.offset + edit.insertedSize + extra) 0 rest.reverse =
      Edit.assemble (rendering.keep document) (rendering.write document)
        (edit.stop + extra) 0 (edit :: rest).reverse := by
  have waiting := descends.of_sublist (List.sublist_cons_self edit rest)
  obtain ⟨inside, sorted⟩ := waiting.reverse descends.below
  have agree :
      ∀ {low high}, IsBoundary document.chars low → IsBoundary document.chars high →
        low ≤ high → high ≤ edit.offset →
          rendering.keep (Edit.performed document edit) low high =
            rendering.keep document low high :=
    fun low high order bound => rendering.below shown descends.span low high order bound
  have last :
      ∀ {low}, IsBoundary document.chars low → low ≤ edit.offset →
        rendering.keep (Edit.performed document edit) low
            (edit.offset + edit.insertedSize + extra) =
          rendering.keep document low edit.offset ++
            (rendering.write document edit.inserted ++
              rendering.keep document edit.stop (edit.stop + extra)) :=
    fun low bound =>
      (rendering.across shown descends.span low boundary bound).trans (List.append_assoc _ _ _)
  have unwritten :
      rendering.write (Edit.performed document edit) = rendering.write document :=
    rendering.write_replaced
  rw [unwritten, Edit.assemble_extend agree last (IsBoundary.zero _) (Nat.zero_le _) inside sorted,
    List.reverse_cons, Edit.assemble_append_cons]
  simp only [Edit.assemble, List.append_assoc]

/-- What a document shows after edits that all lie below an offset: the assembled pieces in front
of where the offset comes to lie, and behind it what it showed before. -/
structure Carries (document edited : Document) (limit : Nat) (lower : List Edit) : Prop where
  size :
    edited.size + limit = Edit.landing document.chars limit lower + document.size
  boundary : ∀ extra, IsBoundary document.chars (limit + extra) →
    IsBoundary edited.chars (Edit.landing document.chars limit lower + extra)
  below :
    rendering.keep edited 0 (Edit.landing document.chars limit lower) =
      Edit.assemble (rendering.keep document) (rendering.write document) limit 0 lower
  above : ∀ extra, IsBoundary document.chars (limit + extra) →
    rendering.keep edited (Edit.landing document.chars limit lower)
        (Edit.landing document.chars limit lower + extra) =
      rendering.keep document limit (limit + extra)

theorem landing_performed
    {document : Document} {edit : Edit} {rest : List Edit} {extra : Nat}
    (descends : Edit.Descends document (edit :: rest))
    (boundary : IsBoundary document.chars (edit.stop + extra)) :
    Edit.landing (Edit.performed document edit).chars
        (edit.offset + edit.insertedSize + extra) rest.reverse =
      Edit.landing document.chars (edit.stop + extra) (edit :: rest).reverse :=
  congrArg Utf8.size (canonical.assemble_performed trivial descends boundary)

theorem Carries.refl
    {document : Document} {limit : Nat} (boundary : IsBoundary document.chars limit) :
    rendering.Carries document document limit [] := by
  have stays := Edit.landing_nil boundary
  constructor
  · rw [stays, Nat.add_comm]
  · intro extra outer
    rw [stays]
    exact outer
  · rw [stays]
    rfl
  · intro extra _
    rw [stays]

variable {rendering}

/-- One step of a run: what holds of the offset moved by an edit holds of the offset before it. -/
theorem Carries.of_performed
    {document edited : Document} {edit : Edit} {rest : List Edit} {gap : Nat}
    (shown : rendering.shows document) (descends : Edit.Descends document (edit :: rest))
    (boundary : IsBoundary document.chars (edit.stop + gap))
    (carried :
      rendering.Carries (Edit.performed document edit) edited
        (edit.offset + edit.insertedSize + gap) rest.reverse) :
    rendering.Carries document edited (edit.stop + gap) (edit :: rest).reverse := by
  have lands := landing_performed descends boundary
  have moves := descends.span.isBoundary_above_iff edit.inserted
  have size := descends.span.size_replaced edit.inserted
  obtain ⟨carriedSize, carriedBoundary, carriedBelow, carriedAbove⟩ := carried
  rw [lands] at carriedSize carriedBoundary carriedBelow carriedAbove
  constructor
  · change _ = _ + (document.replaced edit.offset edit.stop edit.inserted).size at carriedSize
    unfold Edit.insertedSize at carriedSize
    omega
  · intro extra outer
    apply carriedBoundary
    rw [Nat.add_assoc] at outer ⊢
    exact (moves (gap + extra)).mpr outer
  · rw [carriedBelow]
    exact rendering.assemble_performed shown descends boundary
  · intro extra outer
    rw [Nat.add_assoc edit.stop] at outer ⊢
    have outerMoved := (moves (gap + extra)).mpr outer
    rw [← Nat.add_assoc] at outerMoved
    rw [carriedAbove extra outerMoved, Nat.add_assoc _ gap extra]
    exact rendering.above shown descends.span boundary outer (Nat.le_add_right _ _)

theorem carries_of_stage
    {document edited : Document} {edits : List Edit} {limit : Nat}
    (shown : rendering.shows document) (descends : Edit.Descends document edits)
    (boundary : IsBoundary document.chars limit)
    (below : ∀ edit ∈ edits, edit.stop ≤ limit)
    (staged : Edit.stage document edits = .ok edited) :
    rendering.Carries document edited limit edits.reverse := by
  induction edits generalizing document limit with
  | nil =>
      cases staged
      exact Carries.refl rendering boundary
  | cons head rest ih =>
      obtain ⟨span, restStaged⟩ := Edit.stage_cons_eq_ok_iff.mp staged
      obtain ⟨gap, rfl⟩ := Nat.exists_eq_add_of_le (below head List.mem_cons_self)
      have moved := (span.isBoundary_above_iff head.inserted gap).mpr boundary
      have restBelow :
          ∀ edit ∈ rest, edit.stop ≤ head.offset + head.insertedSize + gap := by
        intro edit member
        have reach := descends.below edit member
        omega
      have nextShown : rendering.shows (Edit.performed document head) :=
        rendering.shows_replaced shown span
      exact (ih nextShown descends.tail moved restBelow restStaged).of_performed shown descends
        boundary

theorem shows_of_stage
    {document edited : Document} {edits : List Edit}
    (shown : rendering.shows document)
    (staged : Edit.stage document edits = .ok edited) :
    rendering.shows edited :=
  Edit.stage_induction (fun span shown => rendering.shows_replaced shown span) staged shown

theorem write_of_stage
    {document edited : Document} {edits : List Edit}
    (staged : Edit.stage document edits = .ok edited) :
    rendering.write edited = rendering.write document :=
  Edit.stage_induction (motive := fun reached => rendering.write reached = rendering.write document)
    (fun _ same => rendering.write_replaced.trans same) staged rfl

/-- Edits above an offset change nothing of what is shown below it. -/
theorem keep_below_of_stage
    (rendering : Rendering) {document edited : Document} {edits : List Edit} {limit : Nat}
    (shown : rendering.shows document) (above : ∀ edit ∈ edits, limit ≤ edit.offset)
    (staged : Edit.stage document edits = .ok edited) {low high : Nat}
    (lowBoundary : IsBoundary document.chars low)
    (highBoundary : IsBoundary document.chars high)
    (order : low ≤ high) (below : high ≤ limit) :
    rendering.keep edited low high = rendering.keep document low high := by
  induction edits generalizing document with
  | nil =>
      rw [Except.ok.inj staged]
  | cons head rest ih =>
      obtain ⟨span, restStaged⟩ := Edit.stage_cons_eq_ok_iff.mp staged
      have reach : high ≤ head.offset :=
        Nat.le_trans below (above head List.mem_cons_self)
      have lowStays :=
        (span.isBoundary_below_iff head.inserted (Nat.le_trans order reach)).mpr lowBoundary
      have highStays := (span.isBoundary_below_iff head.inserted reach).mpr highBoundary
      have same :=
        ih (rendering.shows_replaced shown span)
          (fun edit member => above edit (List.mem_cons_of_mem head member)) restStaged
          lowStays highStays
      exact same.trans (rendering.below shown span lowBoundary highBoundary order reach)

/-- Edits above an offset do not move where it comes to lie. -/
theorem landing_of_stage
    {document middle : Document} {higher lower : List Edit} {limit : Nat}
    (descends : Edit.Descends document (higher ++ lower))
    (boundary : IsBoundary document.chars limit)
    (above : ∀ edit ∈ higher, limit ≤ edit.offset)
    (below : ∀ edit ∈ lower, edit.stop ≤ limit)
    (staged : Edit.stage document higher = .ok middle) :
    Edit.landing middle.chars limit lower.reverse =
      Edit.landing document.chars limit lower.reverse := by
  have agree :
      ∀ {low high}, IsBoundary document.chars low → IsBoundary document.chars high →
        low ≤ high → high ≤ limit →
          slice middle.chars low high = slice document.chars low high :=
    fun first last order bound =>
      canonical.keep_below_of_stage trivial above staged first last order bound
  have ends :
      ∀ {low}, IsBoundary document.chars low → low ≤ limit →
        slice middle.chars low limit = slice document.chars low limit ++ [] := by
    intro low first bound
    rw [List.append_nil]
    exact agree first boundary bound (Nat.le_refl _)
  have waiting := descends.of_sublist (List.sublist_append_right higher lower)
  obtain ⟨inside, sorted⟩ := waiting.reverse below
  unfold Edit.landing
  rw [Edit.assemble_extend agree ends (IsBoundary.zero _) (Nat.zero_le _) inside sorted,
    List.append_nil]

/-- After checked edits, made from the highest down, a document shows all the pieces in order. -/
theorem keep_of_stage
    {document edited : Document} {edits : List Edit}
    (shown : rendering.shows document) (descends : Edit.Descends document edits)
    (staged : Edit.stage document edits = .ok edited) :
    rendering.keep edited 0 edited.size =
      Edit.assemble (rendering.keep document) (rendering.write document) document.size 0
        edits.reverse := by
  have inside : ∀ edit ∈ edits, edit.stop ≤ document.size :=
    fun edit member => (descends.spans edit member).last.le_size
  have carried :=
    rendering.carries_of_stage shown descends (IsBoundary.size document.chars) inside staged
  have whole : edited.size = Edit.landing document.chars document.size edits.reverse := by
    have size := carried.size
    change edited.size + document.size = _ + document.size at size
    exact Nat.add_right_cancel size
  rw [whole]
  exact carried.below

/-- A new text stands where the pieces below it end. -/
theorem keep_inserted
    {document edited : Document} {higher lower : List Edit} {edit : Edit}
    (shown : rendering.shows document) (descends : Edit.Descends document (higher ++ edit :: lower))
    (staged : Edit.stage document (higher ++ edit :: lower) = .ok edited) :
    let start := Edit.landing document.chars edit.offset lower.reverse
    IsBoundary edited.chars start ∧ IsBoundary edited.chars (start + edit.insertedSize) ∧
      rendering.keep edited start (start + edit.insertedSize) =
        rendering.write document edit.inserted := by
  obtain ⟨middle, middleStaged, span, higherStaged, lowerStaged⟩ := Edit.exists_stage_at staged
  obtain ⟨above, below⟩ := descends.bounds
  have middleShown := rendering.shows_of_stage shown middleStaged
  have performedShown := rendering.shows_of_stage shown higherStaged
  have boundary : IsBoundary document.chars edit.offset :=
    (descends.spans edit (List.mem_append_right higher List.mem_cons_self)).first
  rw [List.append_cons] at descends
  -- the edits above have left everything up to the offset alone
  have lands := landing_of_stage descends boundary above below higherStaged
  have written :
      rendering.keep (Edit.performed middle edit) edit.offset
          (edit.offset + edit.insertedSize) =
        rendering.write document edit.inserted := by
    rw [← rendering.write_of_stage higherStaged, Edit.performed, rendering.write_replaced]
    exact rendering.inserted middleShown span
  -- the edits below carry the new text along
  have starts : IsBoundary (Edit.performed middle edit).chars edit.offset :=
    (span.isBoundary_below_iff edit.inserted (Nat.le_refl _)).mpr span.first
  have stops :
      IsBoundary (Edit.performed middle edit).chars (edit.offset + edit.insertedSize) :=
    (span.isBoundary_above_iff edit.inserted 0).mpr span.last
  have carried :=
    rendering.carries_of_stage performedShown (descends.drop higherStaged) starts below lowerStaged
  have lowEnd := carried.boundary 0 starts
  have highEnd := carried.boundary edit.insertedSize stops
  have shown := carried.above edit.insertedSize stops
  rw [lands] at lowEnd highEnd shown
  exact ⟨lowEnd, highEnd, shown.trans written⟩

end Rendering

end Reformat
