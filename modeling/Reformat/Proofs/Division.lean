import Reformat.Proofs.Ordering
import Reformat.Proofs.Boundary

/-!
A batch on both sides of an offset. Main statement: at an offset that no edit reaches across, the
substituted text falls into two, the text before the offset and that behind it, each with the edits
on its side.
-/

namespace Reformat.Edit

/-- The text between two offsets with edits made in it all at once; these are counted, as the two
offsets are, in the whole text. -/
def substituteBetween (text : Text) (start stop : Nat) (edits : List Edit) : Text :=
  assemble (slice text) id stop start (ascending edits)

/-- The text in front of an offset, with the edits that end there or before. -/
def substituteBelow (text : Text) (limit : Nat) (edits : List Edit) : Text :=
  substituteBetween text 0 limit (edits.filter fun edit => edit.stop ≤ limit)

/-- The text behind an offset, with the edits that end behind it. -/
def substituteAbove (text : Text) (limit : Nat) (edits : List Edit) : Text :=
  substituteBetween text limit (Utf8.size text)
    (edits.filter fun edit => !decide (edit.stop ≤ limit))

/-- No edit begins before an offset and ends behind it. -/
def Clear (edits : List Edit) (limit : Nat) : Prop :=
  ∀ edit ∈ edits, ¬ (edit.offset < limit ∧ limit < edit.stop)

theorem ascending_filter (keeps : Edit → Bool) (edits : List Edit) :
    ascending (edits.filter keeps) = (ascending edits).filter keeps := by
  obtain ⟨perm, sorted, ties⟩ := isAscending_ascending edits
  apply (isAscending_iff.mp _).symm
  refine ⟨perm.filter keeps, sorted.sublist List.filter_sublist, ?_⟩
  intro offset length
  rw [List.filter_filter, List.filter_filter]
  simp only [Bool.and_comm]
  rw [← List.filter_filter, ties, List.filter_reverse, List.filter_filter]

/-- Of edits one above the other, those that end behind an offset come first. -/
theorem eq_filter_append_of_isAbove {edits : List Edit} (sorted : edits.Pairwise IsAbove)
    (limit : Nat) :
    edits = edits.filter (fun edit => !decide (edit.stop ≤ limit)) ++
      edits.filter fun edit => edit.stop ≤ limit := by
  induction edits with
  | nil => rfl
  | cons head rest ih =>
      obtain ⟨above, restSorted⟩ := List.pairwise_cons.mp sorted
      by_cases below : head.stop ≤ limit
      · have allBelow : ∀ edit ∈ head :: rest, edit.stop ≤ limit := by
          intro edit member
          rcases List.mem_cons.mp member with rfl | later
          · exact below
          · have reach : edit.stop ≤ head.offset := above edit later
            exact Nat.le_trans reach (Nat.le_trans head.offset_le_stop below)
        have noneAbove :
            (head :: rest).filter (fun edit => !decide (edit.stop ≤ limit)) = [] := by
          rw [List.filter_eq_nil_iff]
          intro edit member
          simp [allBelow edit member]
        have kept : (head :: rest).filter (fun edit => edit.stop ≤ limit) = head :: rest :=
          List.filter_eq_self.mpr fun edit member => decide_eq_true (allBelow edit member)
        rw [noneAbove, kept, List.nil_append]
      · rw [List.filter_cons_of_pos (by simpa using below),
          List.filter_cons_of_neg (by simpa using below), List.cons_append, ← ih restSorted]

theorem assemble_slice_append {text : Text} {start limit size : Nat} {lower upper : List Edit}
    (startBelow : start ≤ limit) (bound : limit ≤ size)
    (below : ∀ edit ∈ lower, edit.stop ≤ limit) (above : ∀ edit ∈ upper, limit ≤ edit.offset) :
    assemble (slice text) id size start (lower ++ upper) =
      assemble (slice text) id limit start lower ++
        assemble (slice text) id size limit upper := by
  induction lower generalizing start with
  | nil =>
      cases upper with
      | nil => exact (slice_append_slice text startBelow bound).symm
      | cons edit rest =>
          have reach := above edit List.mem_cons_self
          simp only [List.nil_append, assemble]
          rw [← slice_append_slice text startBelow reach]
          simp only [List.append_assoc]
  | cons head tail ih =>
      have tailBelow : ∀ edit ∈ tail, edit.stop ≤ limit :=
        fun edit member => below edit (List.mem_cons_of_mem head member)
      have rest := ih (below head List.mem_cons_self) tailBelow
      simp only [List.cons_append, assemble, rest, List.append_assoc]

/-- Where no edit reaches across an offset, each side of it has edits of its own. -/
theorem substitute_eq_append {text : Text} {edits : List Edit} {limit : Nat}
    (sorted : (descending edits).Pairwise IsAbove) (clear : Clear edits limit)
    (bound : limit ≤ Utf8.size text) :
    substitute text edits =
      substituteBelow text limit edits ++ substituteAbove text limit edits := by
  have cut : ascending edits =
      (ascending edits).filter (fun edit => edit.stop ≤ limit) ++
        (ascending edits).filter fun edit => !decide (edit.stop ≤ limit) := by
    have order := congrArg List.reverse (eq_filter_append_of_isAbove sorted limit)
    rw [List.reverse_append, ← List.filter_reverse, ← List.filter_reverse] at order
    exact order
  unfold substitute substituteBelow substituteAbove substituteBetween
  rw [ascending_filter, ascending_filter]
  apply (congrArg _ cut).trans
  apply assemble_slice_append (Nat.zero_le limit) bound
  · intro edit member
    exact of_decide_eq_true (List.mem_filter.mp member).2
  · intro edit member
    obtain ⟨found, behind⟩ := List.mem_filter.mp member
    have given : edit ∈ edits := mem_ascending_iff.mp found
    have across := clear edit given
    simp only [Bool.not_eq_true', decide_eq_false_iff_not] at behind
    omega

end Reformat.Edit
