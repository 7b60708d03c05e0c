import Reformat.Proofs.HostText
import Reformat.Proofs.Replacement

/-!
What holds of the breaks that a document remembers. Main statements: they are line breaks of its
text, in ascending order, when it is loaded and after each replacement, so that the host text is the
text with a CR before each remembered break.
-/

namespace Reformat

theorem le_of_mem_crlfOffsets {start offset : Nat} {host : Text}
    (member : offset ∈ crlfOffsets start host) : start ≤ offset := by
  induction host generalizing start with
  | nil => simp [crlfOffsets] at member
  | cons head rest ih =>
      by_cases dropped : head = '\r' ∧ rest.head? = some '\n'
      · rw [crlfOffsets, if_pos dropped, List.mem_cons] at member
        rcases member with first | later
        · exact Nat.le_of_eq first.symm
        · exact ih later
      · rw [crlfOffsets, if_neg dropped] at member
        exact Nat.le_trans (Nat.le_add_right _ _) (ih member)

theorem crlfOffsets_sublist (start : Nat) (host : Text) :
    (crlfOffsets start host).Sublist (newlineOffsets start (canonicalize host)) := by
  unfold canonicalize
  induction host generalizing start with
  | nil => exact List.Sublist.refl _
  | cons head rest ih =>
      by_cases dropped : head = '\r' ∧ rest.head? = some '\n'
      · -- the CR is gone, and the LF behind it is the break that is remembered
        obtain ⟨more, rfl⟩ : ∃ more, rest = '\n' :: more := by
          cases rest with
          | nil => simp at dropped
          | cons next more => exact ⟨more, by rw [Option.some.inj dropped.2]⟩
        have tail := ih start
        have kept : ¬ (('\n' : Char) = '\r' ∧ more.head? = some '\n') := fun both =>
          absurd both.1 (by decide)
        rw [crlfOffsets, if_pos dropped, dropBefore, if_pos dropped]
        rw [dropBefore, if_neg kept, newlineOffsets, if_pos rfl, crlfOffsets, if_neg kept] at tail ⊢
        rcases List.sublist_cons_iff.mp tail with behind | ⟨later, first, -⟩
        · exact behind.cons_cons start
        · have member : start ∈ crlfOffsets (start + ('\n' : Char).utf8Size) more := by
            rw [first]
            exact List.mem_cons_self
          have bound := le_of_mem_crlfOffsets member
          have width := ('\n' : Char).utf8Size_pos
          omega
      · rw [crlfOffsets, if_neg dropped, dropBefore, if_neg dropped, newlineOffsets]
        split
        · exact (ih _).cons start
        · exact ih _

namespace Document

/-- The remembered breaks are some of the LFs of the text, in order. -/
def Sound (document : Document) : Prop :=
  document.crlfBreaks.Sublist (newlineOffsets 0 document.chars)

theorem sound_ofHostText (host : Text) : (ofHostText host).Sound :=
  crlfOffsets_sublist 0 host

namespace Sound

variable {document : Document}

theorem ascending (sound : document.Sound) : document.crlfBreaks.Pairwise (· < ·) :=
  (newlineOffsets_ascending 0 document.chars).sublist sound

theorem inside (sound : document.Sound) :
    ∀ offset ∈ document.crlfBreaks,
      IsBoundary document.chars offset ∧ 0 ≤ offset ∧ offset < Utf8.size document.chars := by
  intro offset member
  have found := sound.mem member
  obtain ⟨before, after, text, reached⟩ := mem_newlineOffsets_iff.mp found
  rw [Nat.zero_add] at reached
  have bounds := mem_newlineOffsets_bounds found
  exact ⟨⟨before, _, text, reached⟩, Nat.zero_le _, by omega⟩

theorem hostText_eq (sound : document.Sound) :
    document.hostText = restoreBreaks document.crlfBreaks 0 document.chars := by
  unfold hostText
  rw [insertReturns_eq (IsBoundary.zero _) sound.ascending sound.inside, slice_size]

theorem replaced {start stop : Nat} {text : Text}
    (sound : document.Sound) (span : document.IsSpan start stop) :
    (document.replaced start stop text).Sound := by
  obtain ⟨before, between, after, chars, rfl, rfl, result⟩ := span.split
  have below :
      (document.crlfBreaks.filter (· < Utf8.size before)).Sublist (newlineOffsets 0 before) := by
    have kept := sound.filter (· < Utf8.size before)
    rw [chars, filter_newlineOffsets_below] at kept
    exact kept
  have above :
      (document.crlfBreaks.filter (Utf8.size before + Utf8.size between ≤ ·)).Sublist
        (newlineOffsets (Utf8.size before + Utf8.size between) after) := by
    have kept := sound.filter (Utf8.size before + Utf8.size between ≤ ·)
    rw [chars, ← List.append_assoc, ← Utf8.size_append, filter_newlineOffsets_above,
      Utf8.size_append] at kept
    exact kept
  have moved := above.map fun offset =>
    offset - (Utf8.size before + Utf8.size between) + (Utf8.size before + Utf8.size text)
  rw [map_newlineOffsets] at moved
  have added :=
    addedBreaks_sublist document.lineEnding (Utf8.size before) text
  unfold Sound
  rw [result text, newlineOffsets_append, newlineOffsets_append, Nat.zero_add]
  change (shiftBreaks document.crlfBreaks _ _ _ _).Sublist _
  rw [shiftBreaks_eq sound.ascending span.order, List.append_assoc]
  exact below.append (added.append moved)

end Sound

end Document

end Reformat
