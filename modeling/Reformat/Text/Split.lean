import Reformat.Text.Utf8

/-!
Taking a text apart at the first occurrence of a character.
-/

namespace Reformat.Text

/-- The parts of a text before and behind the first occurrence of a character. -/
def splitOnce? (mark : Char) : Text → Option (Text × Text)
  | [] => none
  | c :: rest =>
      if c = mark then
        some ([], rest)
      else
        (splitOnce? mark rest).map fun (before, behind) => (c :: before, behind)

/-- A text with the mark in it is what stands before, the mark, and what stands behind. -/
theorem eq_of_splitOnce?
    {mark : Char} {text before behind : Text}
    (found : splitOnce? mark text = some (before, behind)) :
    text = before ++ mark :: behind ∧ mark ∉ before := by
  induction text generalizing before with
  | nil => simp [splitOnce?] at found
  | cons head tail ih =>
      unfold splitOnce? at found
      split at found
      · rename_i same
        simp only [Option.some.injEq, Prod.mk.injEq] at found
        obtain ⟨rfl, rfl⟩ := found
        simp [same]
      · rename_i different
        obtain ⟨⟨front, back⟩, foundTail, equality⟩ := Option.map_eq_some_iff.1 found
        simp only [Prod.mk.injEq] at equality
        obtain ⟨rfl, rfl⟩ := equality
        obtain ⟨split, absent⟩ := ih foundTail
        refine ⟨by simp [split], ?_⟩
        simp only [List.mem_cons, not_or]
        exact ⟨fun same => different same.symm, absent⟩

theorem splitOnce?_append
    {mark : Char} {before : Text} (absent : mark ∉ before) (behind : Text) :
    splitOnce? mark (before ++ mark :: behind) = some (before, behind) := by
  induction before with
  | nil => simp [splitOnce?]
  | cons head tail ih =>
      simp only [List.mem_cons, not_or] at absent
      have different : head ≠ mark := fun equality => absent.1 equality.symm
      simp [splitOnce?, different, ih absent.2]

theorem splitOnce?_eq_none {mark : Char} {text : Text} (absent : mark ∉ text) :
    splitOnce? mark text = none := by
  rw [Option.eq_none_iff_forall_ne_some]
  rintro ⟨before, behind⟩ found
  apply absent
  rw [(eq_of_splitOnce? found).1]
  simp

end Reformat.Text
