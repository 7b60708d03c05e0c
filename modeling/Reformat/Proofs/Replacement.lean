import Reformat.Proofs.Boundary
import Reformat.Proofs.Except

/-!
What replacing a span does. Main statements: it succeeds just between two boundaries in order, and
it keeps the text and the boundaries below the span and, moved, those above it.
-/

namespace Reformat

namespace Document

/-- Two offsets in order that part no character. -/
structure IsSpan (document : Document) (start stop : Nat) : Prop where
  order : start ≤ stop
  first : IsBoundary document.chars start
  last : IsBoundary document.chars stop

/-- The document that replacing a span leads to. -/
def replaced (document : Document) (start stop : Nat) (text : Text) : Document where
  chars := slice document.chars 0 start ++ text ++ slice document.chars stop document.size
  lineEnding := document.lineEnding
  crlfBreaks :=
    shiftBreaks document.crlfBreaks (document.lineEnding.addedBreaks start text)
      start stop (Utf8.size text)
  dirty := true

theorem charAtByte_eq_ok_iff {document : Document} {offset index : Nat} :
    document.charAtByte offset = .ok index ↔
      IsBoundary document.chars offset ∧ charsWithin document.chars offset = index := by
  rw [← IsBoundary.size_take_charsWithin_iff]
  unfold charAtByte
  split
  · rename_i outside
    have absent : ¬ IsBoundary document.chars offset :=
      fun boundary => absurd boundary.le_size (Nat.not_le.mpr outside)
    rw [IsBoundary.size_take_charsWithin_iff]
    simp [absent, throw, throwThe, MonadExceptOf.throw]
  · unfold byteOfChar charOfByte
    split
    · rename_i exact
      simp [exact, pure, Except.pure]
    · rename_i inexact
      simp [inexact, throw, throwThe, MonadExceptOf.throw]

theorem chars_replaced (document : Document) (start stop : Nat) (text : Text) :
    (document.replaced start stop text).chars =
      document.chars.take (charsWithin document.chars start) ++ text ++
        document.chars.drop (charsWithin document.chars stop) := by
  simp [replaced, slice, size]

theorem replace_eq_ok_iff {document next : Document} {start stop : Nat} {text : Text} :
    document.replace start stop text = .ok next ↔
      document.IsSpan start stop ∧ document.replaced start stop text = next := by
  unfold replace
  simp only [guard_eq_ok_iff, bind_eq_ok_iff, charAtByte_eq_ok_iff]
  constructor
  · rintro ⟨inside, first, ⟨startBoundary, rfl⟩, last, ⟨stopBoundary, rfl⟩, result⟩
    refine ⟨⟨by omega, startBoundary, stopBoundary⟩, ?_⟩
    rw [← chars_replaced] at result
    exact Except.ok.inj result
  · rintro ⟨⟨order, startBoundary, stopBoundary⟩, rfl⟩
    have bound : stop ≤ document.size := stopBoundary.le_size
    refine ⟨by omega, _, ⟨startBoundary, rfl⟩, _, ⟨stopBoundary, rfl⟩, ?_⟩
    rw [← chars_replaced]
    rfl

section

variable {document : Document} {start stop : Nat}

/-- The parts of a document around a span, and the document in which the span has given way. -/
theorem IsSpan.split (span : document.IsSpan start stop) :
    ∃ before between after,
      document.chars = before ++ (between ++ after) ∧ Utf8.size before = start ∧
        Utf8.size before + Utf8.size between = stop ∧
        ∀ text, (document.replaced start stop text).chars = before ++ (text ++ after) := by
  obtain ⟨before, between, after, chars, rfl, rfl⟩ :=
    IsBoundary.split span.first span.last span.order
  refine ⟨before, between, after, chars, rfl, rfl, ?_⟩
  intro text
  have size : document.size = Utf8.size (before ++ between) + Utf8.size after := by
    rw [Document.size, chars, ← List.append_assoc, Utf8.size_append]
  have front : slice document.chars 0 (Utf8.size before) = before := by
    rw [chars, slice_append_left (Nat.zero_le _) (Nat.le_refl _), slice_size]
  have back :
      slice document.chars (Utf8.size before + Utf8.size between) document.size = after := by
    have moved := slice_append_right (before ++ between) after 0 (Utf8.size after)
    rw [Nat.add_zero, slice_size] at moved
    rw [size, chars, ← List.append_assoc, ← Utf8.size_append, moved]
  rw [replaced, front, back, List.append_assoc]

theorem IsSpan.size_replaced (span : document.IsSpan start stop) (text : Text) :
    (document.replaced start stop text).size + stop =
      start + Utf8.size text + document.size := by
  obtain ⟨before, between, after, chars, rfl, rfl, result⟩ := span.split
  simp only [Document.size, result text, chars, Utf8.size_append]
  omega

/-- The boundaries below a span stay. -/
theorem IsSpan.isBoundary_below_iff
    (span : document.IsSpan start stop) (text : Text) {offset : Nat} (below : offset ≤ start) :
    IsBoundary (document.replaced start stop text).chars offset ↔
      IsBoundary document.chars offset := by
  obtain ⟨before, between, after, chars, rfl, rfl, result⟩ := span.split
  rw [result text, chars, IsBoundary.append_iff below, IsBoundary.append_iff below]

/-- The boundaries above a span move with the text. -/
theorem IsSpan.isBoundary_above_iff
    (span : document.IsSpan start stop) (text : Text) (extra : Nat) :
    IsBoundary (document.replaced start stop text).chars (start + Utf8.size text + extra) ↔
      IsBoundary document.chars (stop + extra) := by
  obtain ⟨before, between, after, chars, rfl, rfl, result⟩ := span.split
  rw [result text, chars, ← List.append_assoc, ← List.append_assoc, ← Utf8.size_append,
    ← Utf8.size_append, IsBoundary.append_add_iff, IsBoundary.append_add_iff]

theorem IsSpan.slice_below
    (span : document.IsSpan start stop) (text : Text) {low high : Nat}
    (order : low ≤ high) (below : high ≤ start) :
    slice (document.replaced start stop text).chars low high =
      slice document.chars low high := by
  obtain ⟨before, between, after, chars, rfl, rfl, result⟩ := span.split
  rw [result text, chars, slice_append_left order below, slice_append_left order below]

theorem IsSpan.slice_inserted (span : document.IsSpan start stop) (text : Text) :
    slice (document.replaced start stop text).chars start (start + Utf8.size text) = text := by
  obtain ⟨before, between, after, chars, rfl, rfl, result⟩ := span.split
  rw [result text, slice_middle]

theorem IsSpan.slice_above
    (span : document.IsSpan start stop) (text : Text) (low high : Nat) :
    slice (document.replaced start stop text).chars
        (start + Utf8.size text + low) (start + Utf8.size text + high) =
      slice document.chars (stop + low) (stop + high) := by
  obtain ⟨before, between, after, chars, rfl, rfl, result⟩ := span.split
  rw [result text, chars, ← List.append_assoc, ← List.append_assoc, ← Utf8.size_append,
    ← Utf8.size_append, slice_append_right, slice_append_right]

end

end Document

end Reformat
