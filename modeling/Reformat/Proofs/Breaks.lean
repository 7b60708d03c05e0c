import Reformat.Edit.Substitution

/-!
Line breaks by their byte offsets. Main statements: the breaks of an appended text are those of its
parts, and among ascending breaks those below a replaced span stay, those in it give way to the new
ones, and those above it move with the text.
-/

namespace Reformat

/-! ## The line breaks of a text -/

theorem mem_newlineOffsets_iff {start offset : Nat} {text : Text} :
    offset ∈ newlineOffsets start text ↔
      ∃ before after, text = before ++ '\n' :: after ∧ start + Utf8.size before = offset := by
  induction text generalizing start with
  | nil => simp [newlineOffsets]
  | cons head tail ih =>
      constructor
      · intro member
        by_cases isNewline : head = '\n'
        · rw [newlineOffsets, if_pos isNewline, List.mem_cons] at member
          rcases member with first | later
          · exact ⟨[], tail, by rw [isNewline]; rfl, first.symm⟩
          · obtain ⟨before, after, rfl, reached⟩ := ih.mp later
            exact ⟨head :: before, after, rfl, by rw [Utf8.size_cons]; omega⟩
        · rw [newlineOffsets, if_neg isNewline] at member
          obtain ⟨before, after, rfl, reached⟩ := ih.mp member
          exact ⟨head :: before, after, rfl, by rw [Utf8.size_cons]; omega⟩
      · rintro ⟨before, after, text, reached⟩
        cases before with
        | nil =>
            have isNewline : head = '\n' := (List.cons.inj text).1
            rw [newlineOffsets, if_pos isNewline, ← reached]
            exact List.mem_cons_self
        | cons first before =>
            obtain ⟨rfl, rfl⟩ := List.cons.inj text
            have later :
                offset ∈ newlineOffsets (start + head.utf8Size) (before ++ '\n' :: after) :=
              ih.mpr ⟨before, after, rfl, by rw [Utf8.size_cons] at reached; omega⟩
            rw [newlineOffsets]
            split
            · exact List.mem_cons_of_mem start later
            · exact later

theorem mem_newlineOffsets_bounds {start offset : Nat} {text : Text}
    (member : offset ∈ newlineOffsets start text) :
    start ≤ offset ∧ offset < start + Utf8.size text := by
  obtain ⟨before, after, rfl, rfl⟩ := mem_newlineOffsets_iff.mp member
  have width := ('\n' : Char).utf8Size_pos
  rw [Utf8.size_append, Utf8.size_cons]
  omega

theorem newlineOffsets_ascending (start : Nat) (text : Text) :
    (newlineOffsets start text).Pairwise (· < ·) := by
  induction text generalizing start with
  | nil => exact List.Pairwise.nil
  | cons head tail ih =>
      have width := head.utf8Size_pos
      by_cases isNewline : head = '\n'
      · rw [newlineOffsets, if_pos isNewline, List.pairwise_cons]
        refine ⟨?_, ih _⟩
        intro offset member
        have bounds := mem_newlineOffsets_bounds member
        omega
      · rw [newlineOffsets, if_neg isNewline]
        exact ih _

theorem newlineOffsets_append (start : Nat) (left right : Text) :
    newlineOffsets start (left ++ right) =
      newlineOffsets start left ++ newlineOffsets (start + Utf8.size left) right := by
  induction left generalizing start with
  | nil => rfl
  | cons head tail ih =>
      by_cases isNewline : head = '\n'
      · simp [newlineOffsets, isNewline, ih, Nat.add_assoc]
      · simp [newlineOffsets, isNewline, ih, Nat.add_assoc]

/-- The same text at another place has the same breaks there. -/
theorem map_newlineOffsets (old new : Nat) (text : Text) :
    (newlineOffsets old text).map (fun offset => offset - old + new) =
      newlineOffsets new text := by
  suffices general : ∀ done,
      (newlineOffsets (old + done) text).map (fun offset => offset - old + new) =
        newlineOffsets (new + done) text from general 0
  induction text with
  | nil => exact fun _ => rfl
  | cons head tail ih =>
      intro done
      have tailSame := ih (done + head.utf8Size)
      rw [← Nat.add_assoc, ← Nat.add_assoc] at tailSame
      by_cases isNewline : head = '\n'
      · rw [newlineOffsets, newlineOffsets, if_pos isNewline, if_pos isNewline, List.map_cons,
          tailSame]
        congr 1
        omega
      · rw [newlineOffsets, newlineOffsets, if_neg isNewline, if_neg isNewline, tailSame]

theorem filter_newlineOffsets_below (left right : Text) :
    (newlineOffsets 0 (left ++ right)).filter (· < Utf8.size left) = newlineOffsets 0 left := by
  have kept :
      (newlineOffsets 0 left).filter (· < Utf8.size left) = newlineOffsets 0 left := by
    rw [List.filter_eq_self]
    intro offset member
    have bounds := mem_newlineOffsets_bounds member
    exact decide_eq_true (by omega)
  have dropped : (newlineOffsets (0 + Utf8.size left) right).filter (· < Utf8.size left) = [] := by
    rw [List.filter_eq_nil_iff]
    intro offset member
    have bounds := mem_newlineOffsets_bounds member
    rw [decide_eq_true_eq]
    omega
  rw [newlineOffsets_append, List.filter_append, kept, dropped, List.append_nil]

theorem filter_newlineOffsets_above (left right : Text) :
    (newlineOffsets 0 (left ++ right)).filter (Utf8.size left ≤ ·) =
      newlineOffsets (Utf8.size left) right := by
  have dropped : (newlineOffsets 0 left).filter (Utf8.size left ≤ ·) = [] := by
    rw [List.filter_eq_nil_iff]
    intro offset member
    have bounds := mem_newlineOffsets_bounds member
    rw [decide_eq_true_eq]
    omega
  have kept :
      (newlineOffsets (0 + Utf8.size left) right).filter (Utf8.size left ≤ ·) =
        newlineOffsets (0 + Utf8.size left) right := by
    rw [List.filter_eq_self]
    intro offset member
    have bounds := mem_newlineOffsets_bounds member
    exact decide_eq_true (by omega)
  rw [newlineOffsets_append, List.filter_append, dropped, kept, List.nil_append, Nat.zero_add]

theorem mem_addedBreaks_bounds {ending : LineEnding} {start offset : Nat} {text : Text}
    (member : offset ∈ ending.addedBreaks start text) :
    start ≤ offset ∧ offset < start + Utf8.size text := by
  cases ending with
  | lf => simp [LineEnding.addedBreaks] at member
  | crlf => exact mem_newlineOffsets_bounds member

theorem addedBreaks_sublist (ending : LineEnding) (start : Nat) (text : Text) :
    (ending.addedBreaks start text).Sublist (newlineOffsets start text) := by
  cases ending with
  | lf => exact List.nil_sublist _
  | crlf => exact List.Sublist.refl _

/-! ## Line breaks around a span -/

section

variable {breaks added : List Nat} {start stop size : Nat}

theorem partitionPoint_le_length (offsets : List Nat) (limit : Nat) :
    partitionPoint offsets limit ≤ offsets.length :=
  (List.takeWhile_sublist _).length_le

theorem length_take_partitionPoint_append (breaks added : List Nat) (limit : Nat) :
    (breaks.take (partitionPoint breaks limit) ++ added).length =
      partitionPoint breaks limit + added.length := by
  rw [List.length_append, List.length_take,
    Nat.min_eq_left (partitionPoint_le_length breaks limit)]

/-- In ascending order the offsets below a limit come first. -/
theorem take_partitionPoint {limit : Nat} (ascending : breaks.Pairwise (· < ·)) :
    breaks.take (partitionPoint breaks limit) = breaks.filter (· < limit) := by
  unfold partitionPoint
  induction breaks with
  | nil => rfl
  | cons head tail ih =>
      obtain ⟨above, tailAscending⟩ := List.pairwise_cons.mp ascending
      by_cases below : head < limit
      · rw [List.takeWhile_cons_of_pos (by simpa using below), List.length_cons,
          List.take_succ_cons, ih tailAscending, List.filter_cons_of_pos (by simpa using below)]
      · have none : (head :: tail).filter (· < limit) = [] := by
          rw [List.filter_eq_nil_iff]
          intro offset member
          rw [decide_eq_true_eq]
          rcases List.mem_cons.mp member with equality | later
          · omega
          · have bound := above offset later
            omega
        rw [List.takeWhile_cons_of_neg (by simpa using below), none]
        rfl

theorem drop_partitionPoint {limit : Nat} (ascending : breaks.Pairwise (· < ·)) :
    breaks.drop (partitionPoint breaks limit) = breaks.filter (limit ≤ ·) := by
  unfold partitionPoint
  induction breaks with
  | nil => rfl
  | cons head tail ih =>
      obtain ⟨above, tailAscending⟩ := List.pairwise_cons.mp ascending
      by_cases below : head < limit
      · rw [List.takeWhile_cons_of_pos (by simpa using below), List.length_cons,
          List.drop_succ_cons, ih tailAscending, List.filter_cons_of_neg (by simpa using below)]
      · have all : (head :: tail).filter (limit ≤ ·) = head :: tail := by
          rw [List.filter_eq_self]
          intro offset member
          apply decide_eq_true
          rcases List.mem_cons.mp member with equality | later
          · omega
          · have bound := above offset later
            omega
        rw [List.takeWhile_cons_of_neg (by simpa using below), all]
        rfl

/-- The breaks below the span, those that are new, and those above it, counted from the end of the
new text. -/
theorem shiftBreaks_eq (ascending : breaks.Pairwise (· < ·)) (order : start ≤ stop) :
    shiftBreaks breaks added start stop size =
      breaks.filter (· < start) ++ added ++
        (breaks.filter (stop ≤ ·)).map fun offset => offset - stop + (start + size) := by
  have front := length_take_partitionPoint_append breaks added start
  have sameMove :
      (breaks.filter (stop ≤ ·)).map (fun offset => offset - (stop - start) + size) =
        (breaks.filter (stop ≤ ·)).map (fun offset => offset - stop + (start + size)) := by
    apply List.map_congr_left
    intro offset member
    have reached := of_decide_eq_true (List.mem_filter.mp member).2
    omega
  unfold shiftBreaks
  simp only
  rw [← front, List.take_left, List.drop_left, take_partitionPoint ascending,
    drop_partitionPoint ascending, sameMove]

private theorem mem_shiftBreaks {offset : Nat}
    (ascending : breaks.Pairwise (· < ·)) (order : start ≤ stop) :
    offset ∈ shiftBreaks breaks added start stop size ↔
      (offset ∈ breaks ∧ offset < start) ∨ offset ∈ added ∨
        ∃ old ∈ breaks, stop ≤ old ∧ old - stop + (start + size) = offset := by
  rw [shiftBreaks_eq ascending order]
  simp [and_assoc]

theorem mem_shiftBreaks_below {offset : Nat}
    (ascending : breaks.Pairwise (· < ·)) (order : start ≤ stop)
    (addedAbove : ∀ new ∈ added, start ≤ new) (below : offset < start) :
    offset ∈ shiftBreaks breaks added start stop size ↔ offset ∈ breaks := by
  rw [mem_shiftBreaks ascending order]
  constructor
  · rintro (⟨member, -⟩ | member | ⟨old, -, reached, moved⟩)
    · exact member
    · exact absurd (addedAbove offset member) (Nat.not_le.mpr below)
    · omega
  · intro member
    exact Or.inl ⟨member, below⟩

theorem mem_shiftBreaks_inside {offset : Nat}
    (ascending : breaks.Pairwise (· < ·)) (order : start ≤ stop)
    (reached : start ≤ offset) (inside : offset < start + size) :
    offset ∈ shiftBreaks breaks added start stop size ↔ offset ∈ added := by
  rw [mem_shiftBreaks ascending order]
  constructor
  · rintro (⟨-, below⟩ | member | ⟨old, -, oldReached, moved⟩)
    · omega
    · exact member
    · omega
  · intro member
    exact Or.inr (Or.inl member)

theorem mem_shiftBreaks_above {extra : Nat}
    (ascending : breaks.Pairwise (· < ·)) (order : start ≤ stop)
    (addedBelow : ∀ new ∈ added, new < start + size) :
    start + size + extra ∈ shiftBreaks breaks added start stop size ↔ stop + extra ∈ breaks := by
  rw [mem_shiftBreaks ascending order]
  constructor
  · rintro (⟨-, below⟩ | member | ⟨old, member, reached, moved⟩)
    · omega
    · have bound := addedBelow _ member
      omega
    · have equality : old = stop + extra := by omega
      exact equality ▸ member
  · intro member
    exact Or.inr (Or.inr ⟨stop + extra, member, by omega, by omega⟩)

end

end Reformat
