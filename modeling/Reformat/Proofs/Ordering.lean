import Reformat.Proofs.Staging

/-!
The order of a batch and its disjoint spans. Main statements: the one order by offset, then by
length, then against the batch is that in which a batch is taken, and in descending order the edits
of a batch lie one above the other just where any two of them are disjoint.
-/

namespace Reformat.Edit

/-! ## The ascending order -/

def covers (offset length : Nat) (edit : Edit) : Bool :=
  edit.offset == offset && edit.length == length

/-- By offset, and at one offset by length. -/
def Ascends (first second : Edit) : Prop :=
  first.offset < second.offset ∨ (first.offset = second.offset ∧ first.length ≤ second.length)

/-- The edits of a batch by ascending offset, at one offset by ascending length, and those of one
span against the order of the batch. -/
structure IsAscending (edits ordered : List Edit) : Prop where
  perm : ordered.Perm edits
  sorted : ordered.Pairwise Ascends
  ties : ∀ offset length,
    ordered.filter (covers offset length) = (edits.filter (covers offset length)).reverse

theorem mayPrecede_iff {first second : Edit} :
    first.mayPrecede second = true ↔
      second.offset < first.offset ∨
        (second.offset = first.offset ∧ second.length ≤ first.length) := by
  simp [mayPrecede]

theorem descending_descends (edits : List Edit) :
    (descending edits).Pairwise fun upper lower => lower.Ascends upper :=
  (descending_pairwise edits).imp mayPrecede_iff.mp

private theorem filter_insertDescending (offset length : Nat) (edit : Edit) (edits : List Edit) :
    (insertDescending edit edits).filter (covers offset length) =
      (edit :: edits).filter (covers offset length) := by
  induction edits with
  | nil => rfl
  | cons head tail ih =>
      unfold insertDescending
      split
      · rfl
      · rename_i follows
        -- an edit that has to go first does not have the span of the one it is put behind
        have different :
            ¬ (covers offset length edit = true ∧ covers offset length head = true) := by
          rintro ⟨editCovers, headCovers⟩
          simp only [covers, Bool.and_eq_true, beq_iff_eq] at editCovers headCovers
          rw [mayPrecede_iff] at follows
          omega
        rw [List.filter_cons, ih, List.filter_cons, List.filter_cons, List.filter_cons]
        by_cases editCovers : covers offset length edit = true
        · have headMisses : ¬ covers offset length head = true :=
            fun headCovers => different ⟨editCovers, headCovers⟩
          rw [if_neg headMisses, if_neg headMisses]
        · rw [if_neg editCovers, if_neg editCovers]

/-- Edits of one span keep the order of the batch when it is put in descending order. -/
theorem filter_descending (offset length : Nat) (edits : List Edit) :
    (descending edits).filter (covers offset length) = edits.filter (covers offset length) := by
  induction edits with
  | nil => rfl
  | cons head tail ih =>
      rw [descending, filter_insertDescending, List.filter_cons, List.filter_cons, ih]

private theorem ascends_of_filter {head other : Edit} {tail rest : List Edit}
    (sorted : (head :: tail).Pairwise Ascends)
    (same : ∀ offset length,
      (head :: tail).filter (covers offset length) =
        (other :: rest).filter (covers offset length)) :
    head.Ascends other := by
  have found : other ∈ (other :: rest).filter (covers other.offset other.length) := by
    rw [List.mem_filter]
    exact ⟨List.mem_cons_self, by simp [covers]⟩
  rw [← same, List.mem_filter, List.mem_cons] at found
  rcases found.1 with equality | later
  · rw [equality]
    exact Or.inr ⟨rfl, Nat.le_refl _⟩
  · exact (List.pairwise_cons.mp sorted).1 other later

/-- Sorted edits are determined by the order of those of each span. -/
theorem eq_of_filter_covers {first second : List Edit}
    (firstSorted : first.Pairwise Ascends) (secondSorted : second.Pairwise Ascends)
    (same : ∀ offset length,
      first.filter (covers offset length) = second.filter (covers offset length)) :
    first = second := by
  induction first generalizing second with
  | nil =>
      cases second with
      | nil => rfl
      | cons other rest =>
          have missing := same other.offset other.length
          simp [covers] at missing
  | cons head tail ih =>
      cases second with
      | nil =>
          have missing := same head.offset head.length
          simp [covers] at missing
      | cons other rest =>
          have lower := ascends_of_filter firstSorted same
          have upper := ascends_of_filter secondSorted fun offset length => (same offset length).symm
          unfold Ascends at lower upper
          have otherCovers : covers head.offset head.length other = true := by
            simp only [covers, Bool.and_eq_true, beq_iff_eq]
            omega
          have headCovers : covers head.offset head.length head = true := by
            simp [covers]
          have heads := same head.offset head.length
          rw [List.filter_cons_of_pos headCovers, List.filter_cons_of_pos otherCovers] at heads
          obtain ⟨rfl, -⟩ := List.cons.inj heads
          have tails : tail = rest := by
            apply ih (List.pairwise_cons.mp firstSorted).2 (List.pairwise_cons.mp secondSorted).2
            intro offset length
            have both := same offset length
            rw [List.filter_cons, List.filter_cons] at both
            split at both
            · exact (List.cons.inj both).2
            · exact both
          rw [tails]

/-- There is one such order, and it is that in which the batch is taken. -/
theorem isAscending_iff {edits ordered : List Edit} :
    IsAscending edits ordered ↔ ordered = ascending edits := by
  have sorted : (ascending edits).Pairwise Ascends := by
    unfold ascending
    exact List.pairwise_reverse.mpr (descending_descends edits)
  have ties : ∀ offset length,
      (ascending edits).filter (covers offset length) =
        (edits.filter (covers offset length)).reverse := by
    intro offset length
    unfold ascending
    rw [List.filter_reverse, filter_descending]
  constructor
  · intro ascends
    apply eq_of_filter_covers ascends.sorted sorted
    intro offset length
    rw [ascends.ties, ties]
  · rintro rfl
    exact ⟨(List.reverse_perm _).trans (descending_perm edits), sorted, ties⟩

theorem isAscending_ascending (edits : List Edit) : IsAscending edits (ascending edits) :=
  isAscending_iff.mpr rfl

theorem mem_ascending_iff {edits : List Edit} {edit : Edit} :
    edit ∈ ascending edits ↔ edit ∈ edits :=
  (isAscending_ascending edits).perm.mem_iff

/-! ## Disjoint spans -/

/-- One of two edits ends before the other one begins. -/
def Apart (first second : Edit) : Prop :=
  first.stop ≤ second.offset ∨ second.stop ≤ first.offset

instance (first second : Edit) : Decidable (first.Apart second) :=
  inferInstanceAs (Decidable (_ ∨ _))

theorem Apart.symm {first second : Edit} (apart : first.Apart second) : second.Apart first :=
  Or.symm apart

/-- Of two disjoint edits in descending order the second ends first, also where one or both of them
are empty. -/
theorem Apart.isAbove
    {first second : Edit} (apart : first.Apart second)
    (precedes : first.mayPrecede second = true) :
    first.IsAbove second := by
  have order := mayPrecede_iff.mp precedes
  unfold Apart at apart
  unfold IsAbove
  unfold stop at *
  omega

theorem pairwise_isAbove_iff {edits : List Edit}
    (sorted : edits.Pairwise fun upper lower => lower.Ascends upper) :
    edits.Pairwise IsAbove ↔ edits.Pairwise Apart := by
  constructor
  · intro above
    exact above.imp Or.inr
  · intro apart
    apply (apart.and sorted).imp
    rintro first second ⟨disjoint, ascends⟩
    exact disjoint.isAbove (mayPrecede_iff.mpr ascends)

theorem pairwise_isAbove_descending_iff {edits : List Edit} :
    (descending edits).Pairwise IsAbove ↔ edits.Pairwise Apart := by
  rw [pairwise_isAbove_iff (descending_descends edits)]
  exact (descending_perm edits).pairwise_iff Apart.symm

theorem validate_descending_eq_ok_iff {document : Document} {edits : List Edit} :
    validate document none (descending edits) = .ok () ↔
      (∀ edit ∈ edits, edit.Fits document.chars) ∧ edits.Pairwise Apart := by
  have members : ∀ edit, edit ∈ descending edits ↔ edit ∈ edits :=
    fun _ => (descending_perm edits).mem_iff
  rw [validate_eq_ok_iff, pairwise_isAbove_descending_iff]
  simp [members]

theorem descends_of_validate {document : Document} {edits : List Edit}
    (checked : validate document none (descending edits) = .ok ()) :
    Descends document (descending edits) := by
  obtain ⟨fits, -, sorted⟩ := validate_eq_ok_iff.mp checked
  exact ⟨fun edit member => (fits edit member).isSpan, sorted⟩

end Reformat.Edit
