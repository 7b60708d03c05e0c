import Reformat.Proofs.Invariant

/-!
What a document shows between two offsets: its canonical text, or the text as the host writes it.
Both add up at boundaries and follow a replacement, and what is proved of a batch later needs no
more of them than that. Main statement: after a replacement a document shows what it showed below
the span, the new text, and what it showed above the span.
-/

namespace Reformat

structure Rendering where
  /-- The documents that can be shown. -/
  shows : Document → Prop
  /-- What is shown of a document between two offsets. -/
  keep : Document → Nat → Nat → Text
  /-- What is shown of text that is new in a document. -/
  write : Document → Text → Text
  shows_replaced : ∀ {document : Document} {start stop : Nat} {text : Text},
    shows document → document.IsSpan start stop → shows (document.replaced start stop text)
  append : ∀ {document : Document} {low middle high : Nat},
    IsBoundary document.chars low → IsBoundary document.chars middle →
      low ≤ middle → middle ≤ high →
        keep document low middle ++ keep document middle high = keep document low high
  below : ∀ {document : Document} {start stop : Nat} {text : Text} {low high : Nat},
    shows document → document.IsSpan start stop →
      IsBoundary document.chars low → IsBoundary document.chars high →
        low ≤ high → high ≤ start →
          keep (document.replaced start stop text) low high = keep document low high
  inserted : ∀ {document : Document} {start stop : Nat} {text : Text},
    shows document → document.IsSpan start stop →
      keep (document.replaced start stop text) start (start + Utf8.size text) =
        write document text
  above : ∀ {document : Document} {start stop : Nat} {text : Text} {low high : Nat},
    shows document → document.IsSpan start stop →
      IsBoundary document.chars (stop + low) → IsBoundary document.chars (stop + high) →
        low ≤ high →
          keep (document.replaced start stop text)
              (start + Utf8.size text + low) (start + Utf8.size text + high) =
            keep document (stop + low) (stop + high)
  write_replaced : ∀ {document : Document} {start stop : Nat} {text : Text},
    write (document.replaced start stop text) = write document

namespace Rendering

/-- The text that tools are shown. -/
def canonical : Rendering where
  shows _ := True
  keep document := slice document.chars
  write _ := id
  shows_replaced _ _ := trivial
  append _ _ lower upper := slice_append_slice _ lower upper
  below _ span _ _ order bound := span.slice_below _ order bound
  inserted _ span := span.slice_inserted _
  above _ span _ _ _ := span.slice_above _ _ _
  write_replaced := rfl

/-- The text that the host is given back. -/
def host : Rendering where
  shows := Document.Sound
  keep := Document.hostSlice
  write := Document.hostInsertion
  shows_replaced := Document.Sound.replaced
  append := by
    intro document low middle high lowBoundary middleBoundary lower upper
    have width := size_slice lowBoundary middleBoundary lower
    unfold Document.hostSlice
    rw [← slice_append_slice _ lower upper, Document.restoreBreaks_append, width]
  below := by
    intro document start stop text low high sound span lowBoundary highBoundary order bound
    unfold Document.hostSlice
    rw [span.slice_below text order bound]
    have width := size_slice lowBoundary highBoundary order
    apply Document.restoreBreaks_congr
    intro extra inside
    exact mem_shiftBreaks_below sound.ascending span.order
      (fun _ member => (mem_addedBreaks_bounds member).1) (by omega)
  inserted := by
    intro document start stop text sound span
    unfold Document.hostSlice
    rw [span.slice_inserted text]
    have same :
        ∀ extra < Utf8.size text,
          start + extra ∈ (document.replaced start stop text).crlfBreaks ↔
            start + extra ∈ document.lineEnding.addedBreaks start text := by
      intro extra inside
      exact mem_shiftBreaks_inside sound.ascending span.order (Nat.le_add_right _ _)
        (by omega)
    rw [Document.restoreBreaks_congr same]
    exact Document.restoreBreaks_addedBreaks document.lineEnding start text
  above := by
    intro document start stop text low high sound span lowBoundary highBoundary order
    unfold Document.hostSlice
    rw [span.slice_above text]
    have width := size_slice lowBoundary highBoundary (Nat.add_le_add_left order stop)
    apply Document.restoreBreaks_congr
    intro extra inside
    rw [Nat.add_assoc _ low extra, Nat.add_assoc stop low extra]
    exact mem_shiftBreaks_above sound.ascending span.order
      (fun _ member => (mem_addedBreaks_bounds member).2)
  write_replaced := rfl

variable (rendering : Rendering)

/-- A slice that reaches across a replaced span, up to a boundary above it. -/
theorem across
    {document : Document} {start stop low high : Nat} {text : Text}
    (shown : rendering.shows document) (span : document.IsSpan start stop)
    (lowBoundary : IsBoundary document.chars low)
    (highBoundary : IsBoundary document.chars (stop + high))
    (below : low ≤ start) :
    rendering.keep (document.replaced start stop text) low (start + Utf8.size text + high) =
      rendering.keep document low start ++ rendering.write document text ++
        rendering.keep document stop (stop + high) := by
  have lowStays := (span.isBoundary_below_iff text below).mpr lowBoundary
  have startStays := (span.isBoundary_below_iff text (Nat.le_refl _)).mpr span.first
  have textEnd : IsBoundary (document.replaced start stop text).chars (start + Utf8.size text) :=
    (span.isBoundary_above_iff text 0).mpr span.last
  have upper :
      rendering.keep (document.replaced start stop text)
          (start + Utf8.size text + 0) (start + Utf8.size text + high) =
        rendering.keep document (stop + 0) (stop + high) :=
    rendering.above shown span span.last highBoundary (Nat.zero_le _)
  rw [← rendering.append lowStays textEnd (by omega) (by omega),
    ← rendering.append lowStays startStays below (by omega),
    rendering.below shown span lowBoundary span.first below (Nat.le_refl _),
    rendering.inserted shown span]
  exact congrArg _ upper

end Rendering

namespace Document

theorem canonical_keep_size (document : Document) :
    Rendering.canonical.keep document 0 document.size = document.chars :=
  slice_size document.chars

theorem host_keep_size {document : Document} (sound : document.Sound) :
    Rendering.host.keep document 0 document.size = document.hostText := by
  change restoreBreaks _ 0 (slice document.chars 0 (Utf8.size document.chars)) = _
  rw [slice_size, sound.hostText_eq]

end Document

end Reformat
