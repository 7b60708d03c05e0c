import Reformat.Text.Utf8

/-!
Looking for something in a text by trying it at one position after the other. A pattern is a
function from a text to what it finds at the front, so that nothing is said about where it is
found.
-/

namespace Reformat.Text.Scan

variable {α : Type}

/-- What the pattern finds at the first position where it finds anything. -/
def first (pattern : Text → Option α) : Text → Option α
  | [] => pattern []
  | c :: rest =>
      match pattern (c :: rest) with
      | some found => some found
      | none => first pattern rest

/-- The number of positions at which the pattern finds anything. -/
def count (pattern : Text → Option α) : Text → Nat
  | [] => if (pattern []).isSome then 1 else 0
  | c :: rest =>
      (if (pattern (c :: rest)).isSome then 1 else 0) + count pattern rest

/-- All that the pattern finds from left to right, each time going on behind the characters it took.
The pattern gives what it found and the text behind it; where it takes no character it is passed
over. -/
def all (pattern : Text → Option (α × Text)) : Text → List α
  | [] => []
  | c :: rest =>
      match pattern (c :: rest) with
      | some (found, after) =>
          if after.length < (c :: rest).length then
            found :: all pattern after
          else
            all pattern rest
      | none => all pattern rest
termination_by text => text.length
decreasing_by
  all_goals simp_all

/-- The text behind `mark`, if it starts with it. -/
def dropMark : Text → Text → Option Text
  | [], text => some text
  | _ :: _, [] => none
  | head :: tail, c :: rest => if head = c then dropMark tail rest else none

@[simp]
theorem dropMark_append (mark rest : Text) : dropMark mark (mark ++ rest) = some rest := by
  induction mark with
  | nil => rfl
  | cons head tail ih => rw [List.cons_append, dropMark, if_pos rfl, ih]

theorem eq_append_of_dropMark
    {mark text rest : Text} (found : dropMark mark text = some rest) :
    text = mark ++ rest := by
  induction mark generalizing text with
  | nil => exact Option.some.inj found
  | cons head tail ih =>
      cases text with
      | nil => exact absurd found (by simp [dropMark])
      | cons c others =>
          rw [dropMark] at found
          by_cases same : head = c
          · rw [if_pos same] at found
            rw [same, List.cons_append, ← ih found]
          · rw [if_neg same] at found
            exact absurd found (by simp)

theorem dropMark_eq_some_iff {mark text rest : Text} :
    dropMark mark text = some rest ↔ text = mark ++ rest :=
  ⟨eq_append_of_dropMark, fun equality => equality ▸ dropMark_append mark rest⟩

end Reformat.Text.Scan
