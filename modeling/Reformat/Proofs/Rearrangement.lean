import Mathlib.Data.List.Pairwise
import Reformat.Proofs.InPlace
import Reformat.Proofs.Ordering

/-!
A batch in another order. Main statement: the check of a batch gives the same verdict in any order
of its edits, and where no two of them insert at one offset, so does all that applying it gives.
-/

namespace Reformat

namespace Edit

/-! ## The check -/

/-- All of an edit but its text. -/
def key (edit : Edit) : Nat × Nat :=
  (edit.offset, edit.length)

theorem place_congr {document : Document} {first second : Edit} (same : first.key = second.key) :
    first.place document = second.place document := by
  obtain ⟨offset, length⟩ := Prod.mk.inj same
  unfold place stop? stop
  rw [offset, length]

/-- The check does not look at the texts. -/
theorem validate_congr {document : Document} {upper : Option Span} {first second : List Edit}
    (same : first.map key = second.map key) :
    validate document upper first = validate document upper second := by
  induction first generalizing second upper with
  | nil =>
      have nothing : second = [] := List.map_eq_nil_iff.mp same.symm
      rw [nothing]
  | cons head tail ih =>
      cases second with
      | nil => exact absurd same (by simp)
      | cons other rest =>
          obtain ⟨here, later⟩ := List.cons.inj same
          have remaining (span : Option Span) :
              validate document span tail = validate document span rest := ih later
          rw [validate, validate, place_congr here]
          simp only [remaining]

theorem descending_perm_descending {first second : List Edit} (perm : first.Perm second) :
    (descending first).Perm (descending second) :=
  (descending_perm first).trans (perm.trans (descending_perm second).symm)

/-- In descending order the spans of a batch stand in the same places, whatever order it had
before. -/
theorem map_key_eq_of_perm {first second : List Edit} (perm : first.Perm second)
    (firstSorted : first.Pairwise fun upper lower => lower.Ascends upper)
    (secondSorted : second.Pairwise fun upper lower => lower.Ascends upper) :
    first.map key = second.map key := by
  have sorted {edits : List Edit} (descends : edits.Pairwise fun upper lower => lower.Ascends upper) :
      (edits.map key).Pairwise fun upper lower =>
        lower.1 < upper.1 ∨ (lower.1 = upper.1 ∧ lower.2 ≤ upper.2) :=
    List.pairwise_map.mpr descends
  apply (perm.map key).eq_of_pairwise _ (sorted firstSorted) (sorted secondSorted)
  rintro ⟨offset, length⟩ ⟨otherOffset, otherLength⟩ - - ahead behind
  simp only at ahead behind
  rw [Prod.mk.injEq]
  omega

theorem map_key_descending_of_perm {first second : List Edit} (perm : first.Perm second) :
    (descending first).map key = (descending second).map key :=
  map_key_eq_of_perm (descending_perm_descending perm) (descending_descends first)
    (descending_descends second)

theorem validate_descending_of_perm {document : Document} {first second : List Edit}
    (perm : first.Perm second) :
    validate document none (descending first) = validate document none (descending second) :=
  validate_congr (map_key_descending_of_perm perm)

/-! ## The order -/

/-- Not both edits are insertions at one offset. -/
def InsertApart (first second : Edit) : Prop :=
  ¬ (first.length = 0 ∧ second.length = 0 ∧ first.offset = second.offset)

instance (first second : Edit) : Decidable (first.InsertApart second) :=
  inferInstanceAs (Decidable (¬ _))

instance : Std.Symm InsertApart where
  symm := fun _ _ apart ⟨firstEmpty, secondEmpty, offset⟩ =>
    apart ⟨secondEmpty, firstEmpty, offset.symm⟩

instance : Std.Symm Apart where
  symm := fun _ _ => Apart.symm

/-- Disjoint edits have one span only where both insert at one offset. -/
theorem Apart.key_ne {first second : Edit}
    (apart : first.Apart second) (insertApart : first.InsertApart second) :
    first.key ≠ second.key := by
  intro same
  obtain ⟨offset, length⟩ := Prod.mk.inj same
  unfold Apart stop at apart
  exact insertApart ⟨by omega, by omega, offset⟩

theorem eq_of_key_eq {edits : List Edit} {first second : Edit} (apart : edits.Pairwise Apart)
    (firstMember : first ∈ edits) (secondMember : second ∈ edits)
    (same : first.key = second.key) (insertApart : first ≠ second → first.InsertApart second) :
    first = second := by
  by_contra different
  have disjoint := apart.forall firstMember secondMember different
  exact disjoint.key_ne (insertApart different) same

/-- Edits of different spans are put in one order, whatever order they had before. -/
theorem descending_eq_of_perm {first second : List Edit} (perm : first.Perm second)
    (distinct : ∀ one ∈ first, ∀ other ∈ first, one.key = other.key → one = other) :
    descending first = descending second := by
  apply (descending_perm_descending perm).eq_of_pairwise _ (descending_pairwise first)
    (descending_pairwise second)
  intro one other oneMember otherMember ahead behind
  apply distinct one ((descending_perm first).mem_iff.mp oneMember) other
    (perm.mem_iff.mpr ((descending_perm second).mem_iff.mp otherMember))
  rw [mayPrecede_iff] at ahead behind
  unfold key
  rw [Prod.mk.injEq]
  omega

end Edit

namespace Document

theorem apply_eq_of_descending_eq {document : Document} {cursor : Nat} {first second : Batch}
    (edits : Edit.descending first.edits = Edit.descending second.edits)
    (moved : first.cursor = second.cursor) (incomplete : first.incomplete = second.incomplete) :
    document.apply cursor first = document.apply cursor second := by
  unfold apply
  rw [edits, moved, incomplete]

theorem apply_eq_error_of_validate {document : Document} {cursor : Nat} {batch : Batch}
    {cause : Misfit}
    (refused : Edit.validate document none (Edit.descending batch.edits) = .error cause) :
    document.apply cursor batch = .error cause := by
  unfold apply
  simp only [refused]
  rfl

theorem apply_eq_of_perm {document : Document} {cursor : Nat} {moved : Option Nat}
    {incomplete : Bool} {first second : List Edit}
    (perm : first.Perm second) (insertApart : first.Pairwise Edit.InsertApart) :
    document.apply cursor ⟨first, moved, incomplete⟩ =
      document.apply cursor ⟨second, moved, incomplete⟩ := by
  have verdict : Edit.validate document none (Edit.descending first) =
      Edit.validate document none (Edit.descending second) :=
    Edit.validate_descending_of_perm perm
  cases checked : Edit.validate document none (Edit.descending first) with
  | error cause =>
      rw [checked] at verdict
      rw [apply_eq_error_of_validate checked, apply_eq_error_of_validate verdict.symm]
  | ok _ =>
      obtain ⟨-, apart⟩ := Edit.validate_descending_eq_ok_iff.mp checked
      have order : Edit.descending first = Edit.descending second :=
        Edit.descending_eq_of_perm perm fun _ oneMember _ otherMember same =>
          Edit.eq_of_key_eq apart oneMember otherMember same
            (insertApart.forall oneMember otherMember)
      exact apply_eq_of_descending_eq order rfl rfl

/-- The order of a batch makes no difference to the verdict of the check, nor, where no two edits
insert at one offset, to what applying the batch gives and to the document that it leaves. -/
theorem apply_is_order_independent
    (document : Document) (cursor : Nat) (moved : Option Nat) (incomplete : Bool)
    {first second : List Edit} (perm : first.Perm second) :
    Edit.validate document none (Edit.descending first) =
        Edit.validate document none (Edit.descending second) ∧
      (first.Pairwise Edit.InsertApart →
        document.apply cursor ⟨first, moved, incomplete⟩ =
            document.apply cursor ⟨second, moved, incomplete⟩ ∧
          (applyHere cursor ⟨first, moved, incomplete⟩).on document =
            (applyHere cursor ⟨second, moved, incomplete⟩).on document) := by
  refine ⟨Edit.validate_descending_of_perm perm, ?_⟩
  intro insertApart
  have same : document.apply cursor ⟨first, moved, incomplete⟩ =
      document.apply cursor ⟨second, moved, incomplete⟩ :=
    apply_eq_of_perm perm insertApart
  refine ⟨same, ?_⟩
  rw [on_applyHere, on_applyHere, same]

/-- An insertion at the start of a replaced span, in either order of the two, and a batch in which a
span stands twice and two texts are inserted at one offset. -/
theorem apply_is_order_independent_at_one_offset :
    let document := Document.ofHostText ['a', '\r', '\n', 'é', '€', 'b']
    let replacement : Edit := ⟨2, 2, some ['É', '\n']⟩
    let insertion : Edit := ⟨2, 0, some ['x']⟩
    let edited : Document := ⟨['a', '\n', 'x', 'É', '\n', '€', 'b'], .crlf, [1, 5], true⟩
    let refused : List Edit := [⟨7, 0, some ['y']⟩, replacement, ⟨7, 0, some ['z']⟩, ⟨2, 2, none⟩]
    [replacement, insertion].Perm [insertion, replacement] ∧
      [replacement, insertion].Pairwise Edit.InsertApart ∧
      document.apply 4 ⟨[replacement, insertion], none, true⟩ = .ok (⟨5, 2, true⟩, edited) ∧
      document.apply 4 ⟨[insertion, replacement], none, true⟩ = .ok (⟨5, 2, true⟩, edited) ∧
      (applyHere 4 ⟨[insertion, replacement], none, true⟩).on document =
        (.ok ⟨5, 2, true⟩, edited) ∧
      Edit.validate document none (Edit.descending refused.reverse) =
        .error (.overlap ⟨2, 4⟩ ⟨2, 4⟩) := by
  intro document replacement insertion edited refused
  have perm : [replacement, insertion].Perm [insertion, replacement] := List.Perm.swap _ _ _
  have insertApart : [replacement, insertion].Pairwise Edit.InsertApart := by decide
  have accepted :
      document.apply 4 ⟨[replacement, insertion], none, true⟩ = .ok (⟨5, 2, true⟩, edited) := by
    decide +kernel
  have verdict :
      Edit.validate document none (Edit.descending refused) =
        .error (.overlap ⟨2, 4⟩ ⟨2, 4⟩) := by
    decide +kernel
  obtain ⟨same, here⟩ :=
    (apply_is_order_independent document 4 none true perm).2 insertApart
  have turned := (apply_is_order_independent document 0 none true refused.reverse_perm).1
  refine ⟨perm, insertApart, accepted, same.symm.trans accepted, ?_, turned.trans verdict⟩
  rw [← here, on_applyHere, accepted]

end Document

end Reformat
