import Reformat.Proofs.Cursor
import Reformat.Proofs.Translation

/-!
Several cursors in one document. Main statement: a batch carries all cursors by one map, which keeps
their order and takes cursors at one character to one character.
-/

namespace Reformat

theorem eq_characterStart_of_isGreatest {text : Text} {cursor start : Nat}
    (greatest : IsGreatest {offset | IsBoundary text offset ∧ offset ≤ cursor} start) :
    start = characterStart text cursor := by
  rcases greatest with ⟨⟨boundary, bound⟩, upper⟩
  rcases isGreatest_characterStart text cursor with ⟨⟨startBoundary, startBound⟩, startUpper⟩
  apply Nat.le_antisymm
  · exact startUpper ⟨boundary, le_min bound boundary.le_size⟩
  · exact upper ⟨startBoundary, Nat.le_trans startBound (Nat.min_le_left _ _)⟩

namespace Edit

/-- A cursor that an edit shifts comes to stand behind the new text, and one in front of it or inside
of the old text does not pass the start. -/
theorem rebase_monotone (edit : Edit) : Monotone edit.rebase := by
  intro low high order
  change edit.rebase low ≤ edit.rebase high
  unfold rebase stop
  by_cases lowPassed : edit.offset + edit.length ≤ low
  · have highPassed : edit.offset + edit.length ≤ high := Nat.le_trans lowPassed order
    rw [if_pos lowPassed, if_pos highPassed]
    omega
  · rw [if_neg lowPassed]
    by_cases highPassed : edit.offset + edit.length ≤ high
    · rw [if_pos highPassed]
      split
      · omega
      · omega
    · rw [if_neg highPassed]
      by_cases lowInside : edit.offset < low
      · rw [if_pos lowInside, if_pos (Nat.lt_of_lt_of_le lowInside order)]
      · rw [if_neg lowInside]
        split
        · omega
        · exact order

theorem foldl_rebase_monotone (edits : List Edit) :
    Monotone fun cursor => edits.foldl rebase cursor := by
  intro low high order
  induction edits generalizing low high with
  | nil => exact order
  | cons head rest inductionHypothesis => exact inductionHypothesis (head.rebase_monotone order)

end Edit

namespace Document

theorem charOfByte_min_size (document : Document) (offset : Nat) :
    document.charOfByte (min offset document.size) = document.charOfByte offset :=
  charsWithin_min_size document.chars offset

/-- The character position to which edits made one after the other carry a cursor. -/
def carried (document edited : Document) (edits : List Edit) (cursor : Nat) : Nat :=
  edited.charOfByte (edits.foldl Edit.rebase (min cursor document.size))

section

variable {document edited : Document} {edits : List Edit} {cursor other : Nat}

theorem carried_monotone (document edited : Document) (edits : List Edit) :
    Monotone (document.carried edited edits) := by
  intro low high order
  have clamped : min low document.size ≤ min high document.size := by omega
  exact edited.charOfByte_monotone (Edit.foldl_rebase_monotone edits clamped)

theorem carried_le_length (document edited : Document) (edits : List Edit) (cursor : Nat) :
    document.carried edited edits cursor ≤ edited.length :=
  charsWithin_le_length edited.chars _

/-- Cursors at one character are carried to one character. -/
theorem carried_congr (staged : Edit.stage document edits = .ok edited)
    (same : document.charOfByte cursor = document.charOfByte other) :
    document.carried edited edits cursor = document.carried edited edits other := by
  have clamped :
      document.charOfByte (min cursor document.size) =
        document.charOfByte (min other document.size) := by
    rw [charOfByte_min_size, charOfByte_min_size, same]
  exact Edit.charsWithin_foldl_rebase staged clamped

end

/-- A batch that leaves the cursor to the editor is accepted whatever the cursor, and all cursors are
carried in one way: they keep their order, stay within the text, and go where the start of their
character goes, or the end for those past it. -/
theorem apply_keeps_cursor_order
    {document edited : Document} {origin : Nat} {batch : Batch} {applied : Applied}
    (accepted : document.apply origin batch = .ok (applied, edited))
    (unplaced : batch.cursor = none) :
    ∃ carry : Nat → Nat,
      (∀ cursor,
        document.apply cursor batch =
          .ok (⟨carry cursor, applied.editsApplied, applied.incomplete⟩, edited)) ∧
        Monotone carry ∧ (∀ cursor, carry cursor ≤ edited.length) ∧
        (∀ cursor start,
          IsGreatest {offset | IsBoundary document.chars offset ∧ offset ≤ cursor} start →
            document.apply start batch = document.apply cursor batch) ∧
        ∀ cursor, document.size ≤ cursor →
          document.apply document.size batch = document.apply cursor batch := by
  rcases apply_eq_ok_iff.mp accepted with ⟨checked, staged, -, count, incomplete⟩
  have carries (cursor : Nat) :
      document.apply cursor batch =
        .ok (⟨document.carried edited (Edit.descending batch.edits) cursor, applied.editsApplied,
          applied.incomplete⟩, edited) := by
    refine apply_eq_ok_iff.mpr ⟨checked, staged, ?_, count, incomplete⟩
    rw [unplaced]
    rfl
  have congr {cursor other : Nat} (same : document.charOfByte cursor = document.charOfByte other) :
      document.apply cursor batch = document.apply other batch := by
    rw [carries, carries, carried_congr staged same]
  refine ⟨_, carries, carried_monotone document edited _, carried_le_length document edited _,
    ?_, ?_⟩
  · intro cursor start greatest
    rw [eq_characterStart_of_isGreatest greatest]
    exact congr (charsWithin_characterStart document.chars cursor)
  · intro cursor past
    have clamped := document.charOfByte_min_size cursor
    rw [Nat.min_eq_right past] at clamped
    exact congr clamped

/-- One cursor inside a deleted character, one inside a character behind an insertion, and one past
the end. -/
theorem apply_keeps_cursor_order_past_end :
    let document := ofHostText ['a', 'é', '€', 'b', 'c']
    let edited : Document := ⟨['a', 'ß', '€', 'x', 'y', 'c'], .lf, [], true⟩
    let batch : Batch := ⟨[⟨3, 0, some ['ß']⟩, ⟨6, 1, some ['x', 'y']⟩, ⟨1, 2, none⟩], none, true⟩
    document.apply 2 batch = .ok (⟨1, 3, true⟩, edited) ∧
      document.apply 4 batch = .ok (⟨2, 3, true⟩, edited) ∧
      (∃ carry : Nat → Nat,
        Monotone carry ∧ carry 2 = 1 ∧ carry 4 = 2 ∧ carry 100 = 6 ∧ carry 100 ≤ edited.length) ∧
      IsGreatest {offset | IsBoundary document.chars offset ∧ offset ≤ 4} 3 ∧
      document.apply 3 batch = document.apply 4 batch ∧
      document.apply 8 batch = document.apply 100 batch := by
  intro document edited batch
  have accepted : document.apply 2 batch = .ok (⟨1, 3, true⟩, edited) := by decide +kernel
  have inside : document.apply 4 batch = .ok (⟨2, 3, true⟩, edited) := by decide +kernel
  have past : document.apply 100 batch = .ok (⟨6, 3, true⟩, edited) := by decide +kernel
  have size : document.size = 8 := by decide +kernel
  have greatest : IsGreatest {offset | IsBoundary document.chars offset ∧ offset ≤ 4} 3 := by
    have parted : ¬ IsBoundary document.chars 4 := by decide +kernel
    refine ⟨⟨by decide +kernel, by decide⟩, ?_⟩
    rintro offset ⟨boundary, bound⟩
    have different : offset ≠ 4 := by
      rintro rfl
      exact parted boundary
    omega
  rcases apply_keeps_cursor_order accepted rfl with
    ⟨carry, carries, monotone, within, rounded, clamped⟩
  have carried {cursor position : Nat}
      (found : document.apply cursor batch = .ok (⟨position, 3, true⟩, edited)) :
      carry cursor = position := by
    rw [carries cursor] at found
    cases found
    rfl
  have endReached := clamped 100 (by omega)
  rw [size] at endReached
  exact ⟨accepted, inside,
    ⟨carry, monotone, carried accepted, carried inside, carried past, within 100⟩,
    greatest, rounded 4 3 greatest, endReached⟩

end Document

end Reformat
