import Mathlib.Data.Prod.Lex
import Mathlib.Order.Interval.Set.Defs
import Mathlib.Order.Monotone.Basic
import Reformat.Text.Position

/-!
Lines and columns as coordinates. Main statement: they grow from each position of a text to the next
one, so that no two positions share them, and past the end they are those of the end.
-/

namespace Reformat.Text

namespace Position

variable {start : Position} {text : Text} {first last : Nat}

/-- The line counts before the column. -/
def key (position : Position) : ℕ ×ₗ ℕ :=
  toLex (position.line, position.column)

theorem key_lt_key_next (start : Position) (c : Char) (rest : Text) :
    start.key < (start.next c rest).key := by
  unfold next
  by_cases ends : endsLine c rest = true
  · rw [if_pos ends]
    exact Prod.Lex.toLex_lt_toLex.mpr (Or.inl (Nat.lt_succ_self _))
  · rw [if_neg ends]
    exact Prod.Lex.toLex_lt_toLex.mpr (Or.inr ⟨rfl, Nat.lt_succ_self _⟩)

theorem key_le_key_walk (start : Position) (text : Text) (count : Nat) :
    start.key ≤ (start.walk text count).key := by
  induction text generalizing start count with
  | nil => exact le_refl _
  | cons c rest inductionHypothesis =>
      cases count with
      | zero => exact le_refl _
      | succ count =>
          exact (key_lt_key_next start c rest).le.trans
            (inductionHypothesis (start.next c rest) count)

theorem key_walk_lt_key_walk (order : first < last) (inside : last ≤ text.length) :
    (start.walk text first).key < (start.walk text last).key := by
  induction text generalizing start first last with
  | nil => exact absurd (Nat.lt_of_lt_of_le order inside) (Nat.not_lt_zero first)
  | cons c rest inductionHypothesis =>
      rcases Nat.exists_eq_succ_of_ne_zero (Nat.ne_zero_of_lt order) with ⟨later, rfl⟩
      have shorter : later ≤ rest.length := Nat.le_of_succ_le_succ inside
      cases first with
      | zero => exact (key_lt_key_next start c rest).trans_le (key_le_key_walk _ rest later)
      | succ earlier => exact inductionHypothesis (Nat.lt_of_succ_lt_succ order) shorter

theorem walk_min_length (start : Position) (text : Text) (count : Nat) :
    start.walk text (min count text.length) = start.walk text count := by
  induction text generalizing start count with
  | nil => rfl
  | cons c rest inductionHypothesis =>
      cases count with
      | zero => rfl
      | succ count =>
          rw [List.length_cons, Nat.succ_min_succ]
          exact inductionHypothesis (start.next c rest) count

end Position

theorem strictMonoOn_position (text : Text) :
    StrictMonoOn (fun index => (position text index).key) (Set.Iic text.length) := by
  intro first _ last inside order
  exact Position.key_walk_lt_key_walk order inside

/-- The place of any index is that of one position of the text alone. -/
theorem position_eq_position_iff {text : Text} {index : Nat} (inside : index ≤ text.length)
    (other : Nat) : position text index = position text other ↔ index = min other text.length := by
  have clamped : position text (min other text.length) = position text other :=
    Position.walk_min_length _ text other
  rw [← clamped]
  constructor
  · intro same
    exact (strictMonoOn_position text).injOn inside (Nat.min_le_right other text.length)
      (congrArg Position.key same)
  · rintro rfl
    rfl

end Reformat.Text
