import Reformat.Edit.Substitution

/-!
Character boundaries of a text and the slices between them. Main statements: an offset has an exact
character just where it is a boundary, slices at boundaries add up, and the slices of an appended
text are those of its parts.
-/

namespace Reformat

/-- Whether an offset stands between two characters of a text, or at one of its ends. -/
def IsBoundary (text : Text) (offset : Nat) : Prop :=
  ∃ before after, text = before ++ after ∧ Utf8.size before = offset

theorem charsWithin_append_of_le
    {left : Text} {offset : Nat} (bound : offset ≤ Utf8.size left) (right : Text) :
    charsWithin (left ++ right) offset = charsWithin left offset := by
  induction left generalizing offset with
  | nil =>
      have zero : offset = 0 := Nat.le_zero.mp bound
      rw [zero, charsWithin_zero, charsWithin_zero]
  | cons head tail ih =>
      rw [Utf8.size_cons] at bound
      simp only [List.cons_append, charsWithin]
      by_cases fits : head.utf8Size ≤ offset
      · rw [if_pos fits, if_pos fits, ih (by omega)]
      · rw [if_neg fits, if_neg fits]

theorem charsWithin_append_add (left right : Text) (extra : Nat) :
    charsWithin (left ++ right) (Utf8.size left + extra) =
      left.length + charsWithin right extra := by
  induction left with
  | nil => simp
  | cons head tail ih =>
      have fits : head.utf8Size ≤ Utf8.size (head :: tail) + extra := by
        rw [Utf8.size_cons]
        omega
      have remaining :
          Utf8.size (head :: tail) + extra - head.utf8Size = Utf8.size tail + extra := by
        rw [Utf8.size_cons]
        omega
      simp only [List.cons_append, charsWithin, List.length_cons]
      rw [if_pos fits, remaining, ih]
      omega

@[simp]
theorem charsWithin_size (text : Text) : charsWithin text (Utf8.size text) = text.length := by
  simpa using charsWithin_size_append text []

@[simp]
theorem charsWithin_size_take (text : Text) (index : Nat) :
    charsWithin text (Utf8.size (text.take index)) = min index text.length := by
  have cut := charsWithin_size_append (text.take index) (text.drop index)
  rwa [List.take_append_drop, List.length_take] at cut

theorem charsWithin_mono (text : Text) {low high : Nat} (order : low ≤ high) :
    charsWithin text low ≤ charsWithin text high := by
  induction text generalizing low high with
  | nil => exact Nat.le_refl _
  | cons head tail ih =>
      simp only [charsWithin]
      by_cases fits : head.utf8Size ≤ low
      · have tailOrder :
            charsWithin tail (low - head.utf8Size) ≤ charsWithin tail (high - head.utf8Size) :=
          ih (by omega)
        rw [if_pos fits, if_pos (by omega)]
        omega
      · rw [if_neg fits]
        exact Nat.zero_le _

namespace IsBoundary

theorem zero (text : Text) : IsBoundary text 0 :=
  ⟨[], text, rfl, rfl⟩

theorem size (text : Text) : IsBoundary text (Utf8.size text) :=
  ⟨text, [], by simp, rfl⟩

theorem le_size {text : Text} {offset : Nat} (boundary : IsBoundary text offset) :
    offset ≤ Utf8.size text := by
  obtain ⟨before, after, rfl, rfl⟩ := boundary
  rw [Utf8.size_append]
  exact Nat.le_add_right _ _

theorem size_take (text : Text) (index : Nat) : IsBoundary text (Utf8.size (text.take index)) :=
  ⟨_, _, (List.take_append_drop index text).symm, rfl⟩

/-- An offset reaches a boundary just where it reaches its characters. -/
theorem le_iff_charsWithin_le {text : Text} {limit : Nat}
    (boundary : IsBoundary text limit) (offset : Nat) :
    limit ≤ offset ↔ charsWithin text limit ≤ charsWithin text offset := by
  constructor
  · exact charsWithin_mono text
  · intro order
    obtain ⟨before, after, rfl, rfl⟩ := boundary
    rw [charsWithin_size_append] at order
    rcases Nat.le_total (Utf8.size before) offset with reached | inside
    · exact reached
    · have within := size_take_charsWithin_le before offset
      rw [charsWithin_append_of_le inside] at order
      rwa [List.take_of_length_le order] at within

/-- An offset is a boundary just where the characters that end within it fill all of its bytes. -/
theorem size_take_charsWithin_iff {text : Text} {offset : Nat} :
    Utf8.size (text.take (charsWithin text offset)) = offset ↔ IsBoundary text offset := by
  constructor
  · intro exact
    rw [← exact]
    exact size_take text _
  · rintro ⟨before, after, rfl, rfl⟩
    rw [charsWithin_size_append, List.take_left]

instance (text : Text) (offset : Nat) : Decidable (IsBoundary text offset) :=
  decidable_of_iff _ size_take_charsWithin_iff

/-- Boundaries of the first part of a text are those of the whole that lie in it. -/
theorem append_iff {left : Text} {offset : Nat} (bound : offset ≤ Utf8.size left)
    (right : Text) :
    IsBoundary (left ++ right) offset ↔ IsBoundary left offset := by
  constructor
  · intro boundary
    have exact := size_take_charsWithin_iff.mpr boundary
    rw [charsWithin_append_of_le bound, List.take_append_of_le_length
      (charsWithin_le_length left offset)] at exact
    exact size_take_charsWithin_iff.mp exact
  · rintro ⟨before, after, rfl, rfl⟩
    exact ⟨before, after ++ right, List.append_assoc before after right, rfl⟩

/-- Boundaries of the second part of a text are those of the whole, counted from its start. -/
theorem append_add_iff (left right : Text) (extra : Nat) :
    IsBoundary (left ++ right) (Utf8.size left + extra) ↔ IsBoundary right extra := by
  rw [← size_take_charsWithin_iff, ← size_take_charsWithin_iff, charsWithin_append_add,
    List.take_length_add_append, Utf8.size_append]
  omega

/-- Two boundaries cut a text into three parts. -/
theorem split {text : Text} {start stop : Nat}
    (first : IsBoundary text start) (last : IsBoundary text stop) (order : start ≤ stop) :
    ∃ before between after,
      text = before ++ (between ++ after) ∧ Utf8.size before = start ∧
        Utf8.size before + Utf8.size between = stop := by
  obtain ⟨before, rest, rfl, rfl⟩ := first
  obtain ⟨extra, rfl⟩ := Nat.exists_eq_add_of_le order
  obtain ⟨between, after, rfl, rfl⟩ := (append_add_iff before rest extra).mp last
  exact ⟨before, between, after, rfl, rfl, rfl⟩

end IsBoundary

theorem slice_size (text : Text) : slice text 0 (Utf8.size text) = text := by
  simp [slice]

theorem slice_append_slice
    (text : Text) {start middle stop : Nat} (lower : start ≤ middle) (upper : middle ≤ stop) :
    slice text start middle ++ slice text middle stop = slice text start stop := by
  have first := charsWithin_mono text lower
  have second := charsWithin_mono text upper
  have kept := charsWithin_le_length text middle
  have cut :
      text.take (charsWithin text stop) =
        text.take (charsWithin text middle) ++
          (text.take (charsWithin text stop)).drop (charsWithin text middle) := by
    have whole := List.take_append_drop (charsWithin text middle)
      (text.take (charsWithin text stop))
    rw [List.take_take, Nat.min_eq_left second] at whole
    exact whole.symm
  unfold slice
  rw [← List.drop_append_of_le_length (by rw [List.length_take]; omega), ← cut]

theorem slice_append_left
    {left : Text} {start stop : Nat} (order : start ≤ stop) (bound : stop ≤ Utf8.size left)
    (right : Text) :
    slice (left ++ right) start stop = slice left start stop := by
  unfold slice
  rw [charsWithin_append_of_le bound, charsWithin_append_of_le (Nat.le_trans order bound),
    List.take_append_of_le_length (charsWithin_le_length left stop)]

theorem slice_append_right (left right : Text) (start stop : Nat) :
    slice (left ++ right) (Utf8.size left + start) (Utf8.size left + stop) =
      slice right start stop := by
  unfold slice
  rw [charsWithin_append_add, charsWithin_append_add, List.take_length_add_append,
    List.drop_length_add_append]

/-- What stands between two parts of a text is the slice between their offsets. -/
theorem slice_middle (before between after : Text) :
    slice (before ++ (between ++ after)) (Utf8.size before)
        (Utf8.size before + Utf8.size between) =
      between := by
  have moved := slice_append_right before (between ++ after) 0 (Utf8.size between)
  rw [Nat.add_zero] at moved
  rw [moved, slice_append_left (Nat.zero_le _) (Nat.le_refl _), slice_size]

theorem size_slice
    {text : Text} {start stop : Nat}
    (first : IsBoundary text start) (last : IsBoundary text stop) (order : start ≤ stop) :
    start + Utf8.size (slice text start stop) = stop := by
  obtain ⟨before, between, after, rfl, rfl, rfl⟩ := IsBoundary.split first last order
  rw [slice_middle]

end Reformat
