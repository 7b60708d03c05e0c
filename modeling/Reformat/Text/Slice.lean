import Reformat.Text.Utf8

/-!
The characters between two byte offsets of a text. Main statement: the characters within the bytes
of a prefix are those of the prefix.
-/

namespace Reformat

/-- The number of characters that end within the first `bytes` bytes. -/
def charsWithin : Text → Nat → Nat
  | [], _ => 0
  | c :: rest, bytes =>
      if c.utf8Size ≤ bytes then 1 + charsWithin rest (bytes - c.utf8Size) else 0

/-- The characters between two byte offsets of a text. -/
def slice (text : Text) (start stop : Nat) : Text :=
  (text.take (charsWithin text stop)).drop (charsWithin text start)

@[simp]
theorem charsWithin_zero (text : Text) : charsWithin text 0 = 0 := by
  cases text with
  | nil => rfl
  | cons head tail =>
      have positive := head.utf8Size_pos
      simp only [charsWithin]
      rw [if_neg (by omega)]

theorem charsWithin_le_length (text : Text) (bytes : Nat) :
    charsWithin text bytes ≤ text.length := by
  induction text generalizing bytes with
  | nil => simp [charsWithin]
  | cons head tail ih =>
      simp only [charsWithin, List.length_cons]
      split
      · have tailBound := ih (bytes - head.utf8Size)
        omega
      · omega

theorem size_take_charsWithin_le (text : Text) (bytes : Nat) :
    Utf8.size (text.take (charsWithin text bytes)) ≤ bytes := by
  induction text generalizing bytes with
  | nil => simp [charsWithin]
  | cons head tail ih =>
      simp only [charsWithin]
      split
      · rename_i fits
        have tailBound := ih (bytes - head.utf8Size)
        rw [Nat.add_comm 1, List.take_succ_cons, Utf8.size_cons]
        omega
      · simp

theorem charsWithin_size_append (left right : Text) :
    charsWithin (left ++ right) (Utf8.size left) = left.length := by
  induction left with
  | nil => simp
  | cons head tail ih =>
      simp only [List.cons_append, charsWithin, Utf8.size_cons, List.length_cons]
      rw [if_pos (by omega), Nat.add_sub_cancel_left, ih]
      omega

end Reformat
