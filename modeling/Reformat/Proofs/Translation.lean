import Mathlib.Order.Monotone.Basic
import Reformat.Proofs.Replacement

/-!
Byte offsets and character positions. Main statement: a character is reached by an offset just where
its own offset is, so that either count follows the other, and an offset has an exact character just
where it is the offset of one.
-/

namespace Reformat.Document

variable {document : Document} {offset index : Nat}

/-! ## From characters to bytes and back -/

theorem byteOfChar_le_size (document : Document) (index : Nat) :
    document.byteOfChar index ≤ document.size :=
  (IsBoundary.size_take document.chars index).le_size

theorem byteOfChar_of_length_le (outside : document.length ≤ index) :
    document.byteOfChar index = document.size := by
  rw [byteOfChar, List.take_of_length_le outside]
  rfl

@[simp]
theorem byteOfChar_min_length (document : Document) (index : Nat) :
    document.byteOfChar (min index document.length) = document.byteOfChar index := by
  rw [byteOfChar, length, ← List.take_eq_take_min]
  rfl

@[simp]
theorem charOfByte_byteOfChar (document : Document) (index : Nat) :
    document.charOfByte (document.byteOfChar index) = min index document.length :=
  charsWithin_size_take document.chars index

theorem byteOfChar_charOfByte_le (document : Document) (offset : Nat) :
    document.byteOfChar (document.charOfByte offset) ≤ offset :=
  size_take_charsWithin_le document.chars offset

/-- The offset of a character is within the first bytes just where the character is among the
characters within them. -/
theorem le_charOfByte_iff (inside : index ≤ document.length) :
    index ≤ document.charOfByte offset ↔ document.byteOfChar index ≤ offset := by
  have boundary : IsBoundary document.chars (document.byteOfChar index) := .size_take _ _
  calc index ≤ document.charOfByte offset
    _ ↔ document.charOfByte (document.byteOfChar index) ≤ document.charOfByte offset := by
        rw [charOfByte_byteOfChar, Nat.min_eq_left inside]
    _ ↔ document.byteOfChar index ≤ offset := (boundary.le_iff_charsWithin_le offset).symm

theorem le_charOfByte_iff_le_min (inside : index ≤ document.length) :
    index ≤ document.charOfByte offset ↔
      document.byteOfChar index ≤ min offset document.size := by
  rw [le_charOfByte_iff inside, Nat.le_min]
  exact (and_iff_left (document.byteOfChar_le_size index)).symm

theorem charOfByte_monotone (document : Document) : Monotone document.charOfByte :=
  fun _ _ => charsWithin_mono document.chars

theorem byteOfChar_monotone (document : Document) : Monotone document.byteOfChar := by
  intro low high order
  have reached : min low document.length ≤ document.charOfByte (document.byteOfChar high) := by
    rw [charOfByte_byteOfChar]
    exact Nat.le_min.mpr ⟨Nat.le_trans (Nat.min_le_left _ _) order, Nat.min_le_right _ _⟩
  rw [← byteOfChar_min_length]
  exact (le_charOfByte_iff (Nat.min_le_right _ _)).mp reached

/-- The character of an offset holds the byte there. -/
theorem lt_byteOfChar_charOfByte_add_one (inside : offset < document.size) :
    offset < document.byteOfChar (document.charOfByte offset + 1) := by
  by_contra passed
  rcases Nat.lt_or_ge (document.charOfByte offset) document.length with before | behind
  · have next := (le_charOfByte_iff (Nat.succ_le_of_lt before)).mpr (Nat.le_of_not_lt passed)
    omega
  · rw [byteOfChar_of_length_le (Nat.le_succ_of_le behind)] at passed
    exact passed inside

/-! ## Exact offsets -/

theorem isBoundary_iff_exists_byteOfChar :
    IsBoundary document.chars offset ↔
      ∃ index ≤ document.length, document.byteOfChar index = offset := by
  constructor
  · intro boundary
    exact ⟨document.charOfByte offset, charsWithin_le_length _ _,
      IsBoundary.size_take_charsWithin_iff.mpr boundary⟩
  · rintro ⟨index, -, rfl⟩
    exact .size_take document.chars index

theorem charAtByte_eq_ok_iff_byteOfChar :
    document.charAtByte offset = .ok index ↔
      index ≤ document.length ∧ document.byteOfChar index = offset := by
  rw [charAtByte_eq_ok_iff]
  constructor
  · rintro ⟨boundary, rfl⟩
    exact ⟨charsWithin_le_length _ _, IsBoundary.size_take_charsWithin_iff.mpr boundary⟩
  · rintro ⟨inside, rfl⟩
    refine ⟨.size_take document.chars index, ?_⟩
    exact (document.charOfByte_byteOfChar index).trans (Nat.min_eq_left inside)

/-- An offset that has no exact character is past the end or parts a character. -/
theorem charAtByte_of_not_isBoundary (inexact : ¬ IsBoundary document.chars offset) :
    document.charAtByte offset =
      .error (if document.size < offset then
        .outOfBounds offset 0 document.size
      else
        .misaligned offset) := by
  have parted : document.byteOfChar (document.charOfByte offset) ≠ offset :=
    fun exact => inexact (IsBoundary.size_take_charsWithin_iff.mp exact)
  rw [charAtByte, if_neg parted]
  split <;> rfl

theorem charAtByte_eq_outOfBounds_iff :
    document.charAtByte offset = .error (.outOfBounds offset 0 document.size) ↔
      document.size < offset := by
  by_cases boundary : IsBoundary document.chars offset
  · rw [charAtByte_eq_ok_iff.mpr ⟨boundary, rfl⟩]
    have bound : offset ≤ document.size := boundary.le_size
    simp [bound]
  · rw [charAtByte_of_not_isBoundary boundary]
    split
    next outside => simp [outside]
    next inside => simp [inside]

theorem charAtByte_eq_misaligned_iff :
    document.charAtByte offset = .error (.misaligned offset) ↔
      offset ≤ document.size ∧ ∀ index ≤ document.length, document.byteOfChar index ≠ offset := by
  by_cases boundary : IsBoundary document.chars offset
  · rw [charAtByte_eq_ok_iff.mpr ⟨boundary, rfl⟩]
    obtain ⟨index, inside, reached⟩ := isBoundary_iff_exists_byteOfChar.mp boundary
    simp only [reduceCtorEq, false_iff]
    exact fun parts => parts.2 index inside reached
  · have parted : ∀ index ≤ document.length, document.byteOfChar index ≠ offset :=
      fun index inside reached =>
        boundary (isBoundary_iff_exists_byteOfChar.mpr ⟨index, inside, reached⟩)
    rw [charAtByte_of_not_isBoundary boundary, and_iff_left parted]
    split
    next outside => simp [outside]
    next inside => simp [Nat.le_of_not_lt inside]

/-- Offsets and positions translate into one another. The exact translation of an offset is the
position that leads back to it; where there is none, the offset is past the end or parts a
character. The translations that round are adjoint, and the one of an offset gives the character
that holds its byte. -/
theorem translations_are_adjoint (document : Document) :
    (∀ offset index, document.charAtByte offset = .ok index ↔
      index ≤ document.length ∧ document.byteOfChar index = offset) ∧
    (∀ offset, document.charAtByte offset = .error (.outOfBounds offset 0 document.size) ↔
      document.size < offset) ∧
    (∀ offset, document.charAtByte offset = .error (.misaligned offset) ↔
      offset ≤ document.size ∧
        ∀ index ≤ document.length, document.byteOfChar index ≠ offset) ∧
    (∀ offset index, document.charAtByte offset = .ok index →
      document.charOfByte offset = index) ∧
    (∀ offset, ∀ index ≤ document.length,
      (index ≤ document.charOfByte offset ↔
        document.byteOfChar index ≤ min offset document.size)) ∧
    Monotone document.charOfByte ∧ Monotone document.byteOfChar ∧
    (∀ index, document.charOfByte (document.byteOfChar index) = min index document.length) ∧
    ∀ offset < document.size,
      document.byteOfChar (document.charOfByte offset) ≤ offset ∧
        offset < document.byteOfChar (document.charOfByte offset + 1) := by
  refine ⟨fun _ _ => charAtByte_eq_ok_iff_byteOfChar, fun _ => charAtByte_eq_outOfBounds_iff,
    fun _ => charAtByte_eq_misaligned_iff, ?_, fun _ _ => le_charOfByte_iff_le_min,
    document.charOfByte_monotone, document.byteOfChar_monotone, document.charOfByte_byteOfChar, ?_⟩
  · intro offset index exact
    exact (charAtByte_eq_ok_iff.mp exact).2
  · intro offset inside
    exact ⟨document.byteOfChar_charOfByte_le offset, lt_byteOfChar_charOfByte_add_one inside⟩

/-- Characters of one to four bytes: an offset on a boundary, one inside of the last character, the
end and what is past it. -/
theorem translations_are_adjoint_mixed :
    let document := ofHostText ['a', '\r', '\n', 'é', '€', '😀']
    document.length = 5 ∧ document.size = 11 ∧
      document.charAtByte 7 = .ok 4 ∧ document.charOfByte 7 = 4 ∧
      document.charAtByte 10 = .error (.misaligned 10) ∧
      (4 ≤ document.charOfByte 10 ↔ document.byteOfChar 4 ≤ 10) ∧
      document.byteOfChar 4 ≤ 10 ∧ 10 < document.byteOfChar 5 ∧
      document.charAtByte 12 = .error (.outOfBounds 12 0 11) ∧
      document.charOfByte (document.byteOfChar 9) = 5 := by
  intro document
  have length : document.length = 5 := by decide +kernel
  have size : document.size = 11 := by decide +kernel
  have held : document.charOfByte 10 = 4 := by decide +kernel
  have exactly : document.byteOfChar 4 = 7 := by decide +kernel
  have offsets : ∀ index ≤ 5, document.byteOfChar index ≠ 10 := by decide +kernel
  obtain ⟨exact, outside, misaligned, agrees, adjoint, -, -, back, holds⟩ :=
    translations_are_adjoint document
  simp only [length, size] at exact outside misaligned adjoint back holds
  have found : document.charAtByte 7 = .ok 4 := (exact 7 4).mpr ⟨by decide, exactly⟩
  have around := holds 10 (by decide)
  rw [held] at around
  exact ⟨rfl, rfl, found, agrees 7 4 found, (misaligned 10).mpr ⟨by decide, offsets⟩,
    adjoint 10 4 (by decide), around.1, around.2, (outside 12).mpr (by decide), back 9⟩

end Reformat.Document
