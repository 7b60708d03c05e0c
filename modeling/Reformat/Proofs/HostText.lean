import Reformat.Proofs.Boundary
import Reformat.Proofs.Breaks

/-!
The text that the host is given back, by the breaks that lie in it. Main statement: putting a CR in
at one break after the other gives each character its own break, provided that the breaks ascend and
stand at characters of the text.
-/

namespace Reformat.Document

/-- Breaks are restored alike at two places that remember them alike. -/
theorem restoreBreaks_congr {breaks others : List Nat} {start other : Nat} {text : Text}
    (same : ∀ extra < Utf8.size text, start + extra ∈ breaks ↔ other + extra ∈ others) :
    restoreBreaks breaks start text = restoreBreaks others other text := by
  induction text generalizing start other with
  | nil => rfl
  | cons head tail ih =>
      have width := head.utf8Size_pos
      have tailSame :
          ∀ extra < Utf8.size tail,
            start + head.utf8Size + extra ∈ breaks ↔
              other + head.utf8Size + extra ∈ others := by
        intro extra bound
        rw [Nat.add_assoc, Nat.add_assoc]
        exact same _ (by rw [Utf8.size_cons]; omega)
      have headSame : start ∈ breaks ↔ other ∈ others :=
        same 0 (by rw [Utf8.size_cons]; omega)
      simp only [restoreBreaks, headSame, ih tailSame]

theorem restoreBreaks_newlineOffsets (start : Nat) (text : Text) :
    restoreBreaks (newlineOffsets start text) start text =
      text.flatMap fun c => if c = '\n' then ['\r', '\n'] else [c] := by
  induction text generalizing start with
  | nil => rfl
  | cons head tail ih =>
      have width := head.utf8Size_pos
      have later : start ∉ newlineOffsets (start + head.utf8Size) tail := by
        intro member
        have bounds := mem_newlineOffsets_bounds member
        omega
      by_cases isNewline : head = '\n'
      · -- the break of the head lies before the tail and is not met in it again
        have tailSame :
            restoreBreaks (start :: newlineOffsets (start + head.utf8Size) tail)
                (start + head.utf8Size) tail =
              restoreBreaks (newlineOffsets (start + head.utf8Size) tail)
                (start + head.utf8Size) tail := by
          apply restoreBreaks_congr
          intro extra _
          rw [List.mem_cons]
          constructor
          · rintro (equality | member)
            · omega
            · exact member
          · exact Or.inr
        rw [newlineOffsets, if_pos isNewline, restoreBreaks, if_pos List.mem_cons_self, tailSame,
          ih, List.flatMap_cons, if_pos isNewline, isNewline]
        rfl
      · rw [newlineOffsets, if_neg isNewline, restoreBreaks, if_neg later, ih, List.flatMap_cons,
          if_neg isNewline]
        rfl

/-- With the breaks that new text brings, it is written with every LF as a line break of the
document. -/
theorem restoreBreaks_addedBreaks (ending : LineEnding) (start : Nat) (text : Text) :
    restoreBreaks (ending.addedBreaks start text) start text =
      text.flatMap fun c => if c = '\n' then ending.text else [c] := by
  cases ending with
  | lf =>
      have single : (fun c => if c = '\n' then LineEnding.lf.text else [c]) = List.singleton := by
        funext c
        by_cases isNewline : c = '\n'
        · rw [if_pos isNewline, isNewline]
          rfl
        · rw [if_neg isNewline]
          rfl
      rw [LineEnding.addedBreaks, restoreBreaks_nil, single]
      exact (List.flatMap_singleton' text).symm
  | crlf => exact restoreBreaks_newlineOffsets start text

/-- Offsets that lie in front of a text or behind it restore nothing in it. -/
theorem restoreBreaks_eq_self {breaks : List Nat} {start : Nat} {text : Text}
    (outside : ∀ offset ∈ breaks, offset < start ∨ start + Utf8.size text ≤ offset) :
    restoreBreaks breaks start text = text := by
  have same : ∀ extra < Utf8.size text, start + extra ∈ breaks ↔ start + extra ∈ [] := by
    intro extra inside
    constructor
    · intro member
      have bounds := outside _ member
      omega
    · exact fun member => absurd member List.not_mem_nil
  rw [restoreBreaks_congr same, restoreBreaks_nil]

theorem restoreBreaks_cons {offset : Nat} {rest : List Nat} {text : Text}
    (nonempty : text ≠ []) (above : ∀ later ∈ rest, offset < later) :
    restoreBreaks (offset :: rest) offset text = '\r' :: restoreBreaks rest offset text := by
  cases text with
  | nil => exact absurd rfl nonempty
  | cons head tail =>
      have width := head.utf8Size_pos
      have absent : offset ∉ rest := fun member => Nat.lt_irrefl _ (above offset member)
      have tailSame :
          restoreBreaks (offset :: rest) (offset + head.utf8Size) tail =
            restoreBreaks rest (offset + head.utf8Size) tail := by
        apply restoreBreaks_congr
        intro extra _
        rw [List.mem_cons]
        constructor
        · rintro (equality | member)
          · omega
          · exact member
        · exact Or.inr
      rw [restoreBreaks, restoreBreaks, if_pos List.mem_cons_self, if_neg absent, tailSame]

/-- The loop over the breaks does what a look at each character does. -/
theorem insertReturns_eq {text : Text} {last : Nat} {breaks : List Nat}
    (boundary : IsBoundary text last) (ascending : breaks.Pairwise (· < ·))
    (inside : ∀ offset ∈ breaks,
      IsBoundary text offset ∧ last ≤ offset ∧ offset < Utf8.size text) :
    insertReturns text last breaks =
      restoreBreaks breaks last (slice text last (Utf8.size text)) := by
  induction breaks generalizing last with
  | nil => exact (restoreBreaks_nil last _).symm
  | cons offset rest ih =>
      obtain ⟨above, restAscending⟩ := List.pairwise_cons.mp ascending
      obtain ⟨offsetBoundary, reached, bound⟩ := inside offset List.mem_cons_self
      have restInside :
          ∀ later ∈ rest,
            IsBoundary text later ∧ offset ≤ later ∧ later < Utf8.size text := by
        intro later member
        obtain ⟨laterBoundary, -, laterBound⟩ := inside later (List.mem_cons_of_mem offset member)
        exact ⟨laterBoundary, Nat.le_of_lt (above later member), laterBound⟩
      have width := size_slice boundary offsetBoundary reached
      have outside :
          ∀ later ∈ offset :: rest,
            later < last ∨ last + Utf8.size (slice text last offset) ≤ later := by
        intro later member
        rcases List.mem_cons.mp member with equality | behind
        · omega
        · have bound := above later behind
          omega
      have remains := size_slice offsetBoundary (IsBoundary.size text) (Nat.le_of_lt bound)
      have nonempty : slice text offset (Utf8.size text) ≠ [] := by
        intro empty
        rw [empty] at remains
        simp at remains
        omega
      rw [insertReturns, ih offsetBoundary restAscending restInside,
        ← slice_append_slice text reached (Nat.le_of_lt bound), restoreBreaks_append, width,
        restoreBreaks_eq_self outside, restoreBreaks_cons nonempty above]

end Reformat.Document
