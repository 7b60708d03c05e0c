import Mathlib.Data.List.TakeWhile
import Reformat.Text.Scan

/-!
Looking for what begins with a mark. Main statement: a scan passes over text without the mark, and
the scan for the first one also over a mark at which nothing is found.
-/

namespace Reformat.Text

section

variable {accepts : Char → Bool} {mark c : Char} {front : Text}

theorem takeWhile_append_cons
    (inside : ∀ x ∈ front, accepts x = true) (outside : accepts c = false) (rest : Text) :
    (front ++ c :: rest).takeWhile accepts = front := by
  rw [List.takeWhile_append_of_pos inside, List.takeWhile_cons_of_neg (by simp [outside]),
    List.append_nil]

theorem dropWhile_append_cons
    (inside : ∀ x ∈ front, accepts x = true) (outside : accepts c = false) (rest : Text) :
    (front ++ c :: rest).dropWhile accepts = c :: rest := by
  rw [List.dropWhile_append_of_pos inside, List.dropWhile_cons_of_neg (by simp [outside])]

private theorem ne_of_not_mem (absent : mark ∉ front) : ∀ x ∈ front, decide (x ≠ mark) = true := by
  intro x member
  apply decide_eq_true
  rintro rfl
  exact absent member

theorem takeWhile_ne_append_cons (absent : mark ∉ front) (rest : Text) :
    (front ++ mark :: rest).takeWhile (· ≠ mark) = front :=
  takeWhile_append_cons (ne_of_not_mem absent) (by simp) rest

theorem dropWhile_ne_append_cons (absent : mark ∉ front) (rest : Text) :
    (front ++ mark :: rest).dropWhile (· ≠ mark) = mark :: rest :=
  dropWhile_append_cons (ne_of_not_mem absent) (by simp) rest

theorem not_mem_takeWhile_ne (mark : Char) (text : Text) :
    mark ∉ text.takeWhile (· ≠ mark) := by
  intro member
  have accepted := List.mem_takeWhile_imp member
  simp at accepted

/-- A text in which the mark is found falls into what stands before the mark and what stands behind
it. -/
theorem eq_append_of_dropWhile_ne {text rest : Text}
    (found : text.dropWhile (· ≠ mark) = c :: rest) :
    text = text.takeWhile (· ≠ mark) ++ mark :: rest := by
  have stopped := List.head?_dropWhile_not (fun x => decide (x ≠ mark)) text
  simp only [found, List.head?_cons, decide_eq_false_iff_not, not_not] at stopped
  subst stopped
  rw [← found]
  exact List.takeWhile_append_dropWhile.symm

end

namespace Scan

variable {α β : Type} {mark : Char}

/-- A pattern that finds something only where the mark is. -/
structure BeginsWith (mark : Char) (pattern : Text → Option α) : Prop where
  nil : pattern [] = none
  cons : ∀ {c : Char} (rest : Text), c ≠ mark → pattern (c :: rest) = none

theorem beginsWith_dropMark (mark : Char) (tail : Text) :
    BeginsWith mark (dropMark (mark :: tail)) where
  nil := rfl
  cons := by
    intro c rest different
    rw [dropMark, if_neg different.symm]

theorem BeginsWith.bind {pattern : Text → Option α}
    (begins : BeginsWith mark pattern) (next : α → Option β) :
    BeginsWith mark fun text => pattern text >>= next where
  nil := by
    rw [begins.nil]
    rfl
  cons := by
    intro c rest different
    rw [begins.cons rest different]
    rfl

/-! ## The first that is found -/

theorem first_of_eq_some {pattern : Text → Option α} {text : Text} {found : α}
    (here : pattern text = some found) : first pattern text = some found := by
  cases text with
  | nil => exact here
  | cons c rest => rw [first, here]

theorem first_append {pattern : Text → Option α} {before : Text}
    (begins : BeginsWith mark pattern) (absent : mark ∉ before) (rest : Text) :
    first pattern (before ++ rest) = first pattern rest := by
  induction before with
  | nil => rfl
  | cons head tail ih =>
      rw [List.mem_cons, not_or] at absent
      rw [List.cons_append, first, begins.cons _ (Ne.symm absent.1)]
      exact ih absent.2

theorem first_mark_append {pattern : Text → Option α} {chunk rest : Text}
    (begins : BeginsWith mark pattern) (absent : mark ∉ chunk)
    (nothing : pattern (mark :: chunk ++ rest) = none) :
    first pattern (mark :: chunk ++ rest) = first pattern rest := by
  rw [List.cons_append] at nothing ⊢
  rw [first, nothing]
  exact first_append begins absent rest

/-! ## How many are found -/

theorem count_append {pattern : Text → Option α} {before : Text}
    (begins : BeginsWith mark pattern) (absent : mark ∉ before) (rest : Text) :
    count pattern (before ++ rest) = count pattern rest := by
  induction before with
  | nil => rfl
  | cons head tail ih =>
      rw [List.mem_cons, not_or] at absent
      rw [List.cons_append, count, begins.cons _ (Ne.symm absent.1), ih absent.2]
      exact Nat.zero_add _

/-! ## All that are found -/

theorem all_of_eq_some {pattern : Text → Option (α × Text)} {text after : Text} {found : α}
    (here : pattern text = some (found, after)) (shorter : after.length < text.length) :
    all pattern text = found :: all pattern after := by
  cases text with
  | nil => exact absurd shorter (Nat.not_lt_zero _)
  | cons c rest =>
      rw [all, here]
      exact if_pos shorter

theorem all_append {pattern : Text → Option (α × Text)} {before : Text}
    (begins : BeginsWith mark pattern) (absent : mark ∉ before) (rest : Text) :
    all pattern (before ++ rest) = all pattern rest := by
  induction before with
  | nil => rfl
  | cons head tail ih =>
      rw [List.mem_cons, not_or] at absent
      rw [List.cons_append, all, begins.cons _ (Ne.symm absent.1)]
      exact ih absent.2

end Scan

end Reformat.Text
