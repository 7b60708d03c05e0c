import Reformat.Proofs.Culprit
import Reformat.Proofs.Cursor
import Reformat.Proofs.Cuts
import Reformat.Proofs.Machine
import Reformat.Proofs.Reachability

/-!
The numbers of a batch. Main statement: where a document and all that is inserted into it fit 64
bits, a machine of 64 bits applies a batch as it is applied without a bound on the numbers, and
all it asks of a text lies in the text, at its characters.
-/

namespace Reformat

/-- What a complaint is on the machine. A strict one has none about an offset inside a character: it
was not to be asked for it. -/
def Halt.ofMisfit (strict : Bool) : Misfit → Halt
  | .misaligned offset => if strict then .parted offset else .refused (.misaligned offset)
  | cause => .refused cause

/-! ## Sizes -/

theorem Utf8.size_eq_of_perm {left right : Text} (perm : left.Perm right) :
    Utf8.size left = Utf8.size right := by
  induction perm with
  | nil => rfl
  | cons head _ same => rw [size_cons, size_cons, same]
  | swap first second tail =>
      simp only [size_cons]
      omega
  | trans _ _ first second => exact first.trans second

theorem length_newlineOffsets_le (start : Nat) (text : Text) :
    (newlineOffsets start text).length ≤ Utf8.size text := by
  induction text generalizing start with
  | nil => exact Nat.le_refl _
  | cons head tail ih =>
      have width := head.utf8Size_pos
      have tailBound := ih (start + head.utf8Size)
      rw [newlineOffsets, Utf8.size_cons]
      split
      · rw [List.length_cons]
        omega
      · omega

theorem length_addedBreaks_le (ending : LineEnding) (start : Nat) (text : Text) :
    (ending.addedBreaks start text).length ≤ Utf8.size text :=
  Nat.le_trans (addedBreaks_sublist ending start text).length_le
    (length_newlineOffsets_le start text)

theorem Document.Sound.length_crlfBreaks_le {document : Document} (sound : document.Sound) :
    document.crlfBreaks.length ≤ document.size :=
  Nat.le_trans sound.length_le (length_newlineOffsets_le 0 document.chars)

theorem partitionPoint_monotone (offsets : List Nat) : Monotone (partitionPoint offsets) := by
  intro low high order
  change partitionPoint offsets low ≤ partitionPoint offsets high
  unfold partitionPoint
  induction offsets with
  | nil => exact Nat.le_refl _
  | cons head tail ih =>
      by_cases below : head < low
      · have alsoBelow : head < high := Nat.lt_of_lt_of_le below order
        rw [List.takeWhile_cons_of_pos (by simpa using below),
          List.takeWhile_cons_of_pos (by simpa using alsoBelow)]
        exact Nat.succ_le_succ ih
      · rw [List.takeWhile_cons_of_neg (by simpa using below)]
        exact Nat.zero_le _

namespace Machine

/-! ## One operation -/

section

variable {left right index limit : Nat}

theorem add_eq (fits : left + right < UInt64.size) : add left right = .ok (left + right) :=
  if_pos fits

theorem subtract_eq (order : right ≤ left) : subtract left right = .ok (left - right) :=
  if_pos order

theorem within_eq (bound : index ≤ limit) : within index limit = .ok () :=
  if_pos bound

end

theorem splice_eq {items added : List Nat} {low high : Nat} (order : low ≤ high)
    (bound : high ≤ items.length) :
    splice items low high added = .ok (items.take low ++ added ++ items.drop high) := by
  rw [splice, within_eq order, within_eq bound]
  rfl

section

variable {strict : Bool} {text : Text} {offset index first last : Nat}

theorem charOfByte_eq (inside : offset ≤ Utf8.size text)
    (whole : strict = true → IsBoundary text offset) :
    charOfByte strict text offset = .ok (charsWithin text offset) := by
  have accepted : ¬ (strict = true ∧ ¬ IsBoundary text offset) := fun both =>
    both.2 (whole both.1)
  rw [charOfByte, within_eq inside, ok_bind, if_neg accepted]
  rfl

theorem charOfByte_of_parted (inside : offset ≤ Utf8.size text)
    (parted : ¬ IsBoundary text offset) :
    charOfByte true text offset = .error (.parted offset) := by
  rw [charOfByte, within_eq inside, ok_bind, if_pos ⟨rfl, parted⟩]
  rfl

theorem byteOfChar_eq (bound : index ≤ text.length) :
    byteOfChar text index = .ok (Utf8.size (text.take index)) := by
  rw [byteOfChar, within_eq bound]
  rfl

theorem clear_eq (order : first ≤ last) (bound : last ≤ text.length) :
    clear text first last = .ok (text.take first ++ text.drop last) := by
  unfold clear
  split
  · rw [remove, within_eq order, within_eq bound]
    rfl
  · have same : first = last := by omega
    rw [same, List.take_append_drop]
    rfl

theorem fill_eq (inserted : Text) (bound : index ≤ text.length) :
    fill text index inserted = .ok (text.take index ++ inserted ++ text.drop index) := by
  unfold fill
  split
  · rename_i empty
    rw [List.isEmpty_iff.mp empty, List.append_nil, List.take_append_drop]
    rfl
  · rw [insert, within_eq bound]
    rfl

/-- What has been cleared is filled at the place where it began. -/
theorem fill_cleared_eq (inserted : Text) (order : first ≤ last) (bound : last ≤ text.length) :
    fill (text.take first ++ text.drop last) first inserted =
      .ok (text.take first ++ inserted ++ text.drop last) := by
  have front : (text.take first).length = first := by
    rw [List.length_take]
    omega
  have room : first ≤ (text.take first ++ text.drop last).length := by
    rw [List.length_append, front]
    exact Nat.le_add_right _ _
  rw [fill_eq inserted room, List.take_left' front, List.drop_left' front]

/-- An offset is refused as before, or halts a strict machine that is asked for it. -/
theorem charAtByte_eq (strict : Bool) (document : Document) (offset : Nat) :
    charAtByte strict document offset =
      (document.charAtByte offset).mapError (Halt.ofMisfit strict) := by
  by_cases outside : document.size < offset
  · rw [charAtByte, if_pos outside, Document.charAtByte, if_pos outside]
    rfl
  · have inside : offset ≤ document.size := Nat.le_of_not_lt outside
    have start := byteOfChar_eq (charsWithin_le_length document.chars offset)
    rw [charAtByte, if_neg outside]
    by_cases boundary : IsBoundary document.chars offset
    · rw [charOfByte_eq inside fun _ => boundary, ok_bind, start, ok_bind,
        if_pos (IsBoundary.size_take_charsWithin_iff.mpr boundary),
        Document.charAtByte_eq_ok_iff.mpr ⟨boundary, rfl⟩]
      rfl
    · rw [Edit.charAtByte_of_parted inside boundary]
      cases strict with
      | false =>
          have lax : false = true → IsBoundary document.chars offset :=
            fun required => absurd required Bool.false_ne_true
          rw [charOfByte_eq inside lax, ok_bind, start, ok_bind,
            if_neg fun exact => boundary (IsBoundary.size_take_charsWithin_iff.mp exact)]
          rfl
      | true =>
          rw [charOfByte_of_parted inside boundary]
          rfl

theorem charAtByte_of_isBoundary {document : Document}
    (boundary : IsBoundary document.chars offset) :
    charAtByte strict document offset = .ok (charsWithin document.chars offset) := by
  rw [charAtByte_eq, Document.charAtByte_eq_ok_iff.mpr ⟨boundary, rfl⟩]
  rfl

end

/-! ## The check of a batch -/

theorem place_eq (strict : Bool) (document : Document) (edit : Edit) :
    place strict document edit = (edit.place document).mapError (Halt.ofMisfit strict) := by
  unfold place Edit.place
  cases edit.stop?.filter (· ≤ document.size) with
  | none => rfl
  | some stop =>
      simp only [mapError_bind, charAtByte_eq]
      rfl

theorem validate_eq (strict : Bool) (document : Document) (upper : Option Span)
    (edits : List Edit) :
    validate strict document upper edits =
      (Edit.validate document upper edits).mapError (Halt.ofMisfit strict) := by
  induction edits generalizing upper with
  | nil => rfl
  | cons head rest ih =>
      rw [validate, Edit.validate, mapError_bind, place_eq]
      congr 1
      funext span
      cases upper with
      | none => exact ih (some span)
      | some upper =>
          by_cases reaches : upper.start < span.stop
          · simp only [reaches, if_true]
            rfl
          · simp only [reaches, if_false]
            exact ih (some span)

/-! ## The breaks of a replaced span -/

theorem addedBreaks_eq (ending : LineEnding) {start : Nat} {text : Text}
    (fits : start + Utf8.size text < UInt64.size) :
    addedBreaks ending start text = .ok (ending.addedBreaks start text) := by
  cases ending with
  | lf => rfl
  | crlf =>
      have sums : ∀ offset ∈ newlineOffsets 0 text, add start offset = .ok (offset - 0 + start) := by
        intro offset member
        have bounds := mem_newlineOffsets_bounds member
        rw [add_eq (by omega), Nat.sub_zero, Nat.add_comm]
      have moved := mapM_eq_ok_map sums
      rw [map_newlineOffsets] at moved
      exact moved

theorem moveBreak_eq {start stop size offset : Nat} (order : start ≤ stop) (reached : stop ≤ offset)
    (fits : offset + size < UInt64.size) :
    moveBreak start stop size offset = .ok (offset - (stop - start) + size) := by
  rw [moveBreak, subtract_eq order, ok_bind, subtract_eq (by omega), ok_bind, add_eq (by omega)]

/-- The breaks that are moved are those behind the span: none of them is less than what is taken
off. -/
theorem shiftBreaks_eq {breaks added : List Nat} {start stop size : Nat}
    (ascending : breaks.Pairwise (· < ·)) (order : start ≤ stop)
    (count : breaks.length + added.length < UInt64.size)
    (fits : ∀ offset ∈ breaks, offset + size < UInt64.size) :
    shiftBreaks breaks added start stop size =
      .ok (Reformat.shiftBreaks breaks added start stop size) := by
  have low := partitionPoint_le_length breaks start
  have high := partitionPoint_le_length breaks stop
  have front := length_take_partitionPoint_append breaks added start
  have kept :
      partitionPoint breaks start + added.length ≤
        (breaks.take (partitionPoint breaks start) ++ added ++
          breaks.drop (partitionPoint breaks stop)).length := by
    rw [List.length_append, front]
    exact Nat.le_add_right _ _
  have moves :
      ∀ offset ∈ breaks.drop (partitionPoint breaks stop),
        moveBreak start stop size offset = .ok (offset - (stop - start) + size) := by
    intro offset member
    rw [drop_partitionPoint ascending, List.mem_filter] at member
    exact moveBreak_eq order (of_decide_eq_true member.2) (fits offset member.1)
  unfold shiftBreaks Reformat.shiftBreaks
  simp only
  rw [add_eq (by omega), ok_bind, splice_eq (partitionPoint_monotone breaks order) high, ok_bind,
    within_eq kept, ok_bind, ← front, List.take_left, List.drop_left, mapM_eq_ok_map moves]
  rfl

/-! ## One edit -/

theorem replace_eq {document : Document} {start stop : Nat} {text : Text}
    (sound : document.Sound) (span : document.IsSpan start stop)
    (fits : document.size + Utf8.size text < UInt64.size) :
    replace document start stop text = .ok (document.replaced start stop text) := by
  have order := span.order
  have bound : stop ≤ document.size := span.last.le_size
  have inside : ¬ (stop < start ∨ document.size < stop) := by omega
  have chars := charsWithin_mono document.chars order
  have last := charsWithin_le_length document.chars stop
  have remembered := sound.length_crlfBreaks_le
  have added := length_addedBreaks_le document.lineEnding start text
  have breaks : ∀ offset ∈ document.crlfBreaks, offset + Utf8.size text < UInt64.size := by
    intro offset member
    have below : offset < document.size := (sound.inside offset member).2.2
    omega
  rw [replace, if_neg inside, charAtByte_of_isBoundary span.first, ok_bind,
    charAtByte_of_isBoundary span.last, ok_bind, clear_eq chars last, ok_bind,
    fill_cleared_eq text chars last, ok_bind, addedBreaks_eq document.lineEnding (by omega), ok_bind,
    shiftBreaks_eq sound.ascending order (by omega) breaks, ok_bind, ← Document.chars_replaced]
  rfl

theorem rebase_eq {document : Document} {edit : Edit} {cursor : Nat}
    (span : document.IsSpan edit.offset edit.stop) (inside : cursor ≤ document.size)
    (fits : document.size + edit.insertedSize < UInt64.size) :
    rebase cursor edit = .ok (edit.rebase cursor) := by
  have bound : edit.stop ≤ document.size := span.last.le_size
  unfold Edit.stop at bound
  rw [rebase, add_eq (by omega), ok_bind]
  unfold Edit.rebase Edit.stop
  split
  · rw [subtract_eq (by omega), ok_bind, add_eq (by omega)]
  · split
    · rfl
    · rfl

end Machine

namespace Edit

theorem isBoundary_rebase {document : Document} {edit : Edit} {cursor : Nat}
    (span : document.IsSpan edit.offset edit.stop) (boundary : IsBoundary document.chars cursor) :
    IsBoundary (performed document edit).chars (edit.rebase cursor) := by
  by_cases passed : edit.stop ≤ cursor
  · obtain ⟨extra, rfl⟩ := Nat.exists_eq_add_of_le passed
    rw [rebase_stop_add]
    exact (span.isBoundary_above_iff edit.inserted extra).mpr boundary
  · rw [rebase, if_neg passed]
    split
    · exact (span.isBoundary_below_iff edit.inserted (Nat.le_refl _)).mpr span.first
    · rename_i behind
      exact (span.isBoundary_below_iff edit.inserted (Nat.le_of_not_lt behind)).mpr boundary

theorem isBoundary_foldl_rebase {document edited : Document} {edits : List Edit} {cursor : Nat}
    (staged : stage document edits = .ok edited) (boundary : IsBoundary document.chars cursor) :
    IsBoundary edited.chars (edits.foldl rebase cursor) := by
  induction edits generalizing document cursor with
  | nil =>
      cases staged
      exact boundary
  | cons head rest ih =>
      obtain ⟨span, restStaged⟩ := stage_cons_eq_ok_iff.mp staged
      exact ih restStaged (isBoundary_rebase span boundary)

theorem rebase_le_size {document : Document} {edit : Edit} {cursor : Nat}
    (span : document.IsSpan edit.offset edit.stop) (inside : cursor ≤ document.size) :
    edit.rebase cursor ≤ (performed document edit).size := by
  have size : (performed document edit).size + edit.stop =
      edit.offset + edit.insertedSize + document.size := span.size_replaced edit.inserted
  have bound : edit.stop ≤ document.size := span.last.le_size
  unfold rebase
  unfold stop at size bound ⊢
  split
  · omega
  · split
    · omega
    · omega

end Edit

namespace Machine

/-! ## Edits one after the other -/

/-- What holds before each of the edits: the document, the edits that are left and the cursor fit
each other, and the document with all that is still to be inserted fits 64 bits. -/
structure Room (document : Document) (cursor : Nat) (edits : List Edit) : Prop where
  sound : document.Sound
  descends : Edit.Descends document edits
  inside : cursor ≤ document.size
  fits : document.size + Utf8.size (edits.flatMap Edit.inserted) < UInt64.size

namespace Room

variable {document : Document} {cursor : Nat} {edit : Edit} {rest : List Edit}

theorem head (room : Room document cursor (edit :: rest)) :
    document.size + edit.insertedSize < UInt64.size := by
  have fits := room.fits
  rw [List.flatMap_cons, Utf8.size_append] at fits
  unfold Edit.insertedSize
  omega

theorem tail (room : Room document cursor (edit :: rest)) :
    Room (Edit.performed document edit) (edit.rebase cursor) rest := by
  have span := room.descends.span
  refine ⟨room.sound.replaced span, room.descends.tail, Edit.rebase_le_size span room.inside, ?_⟩
  have fits := room.fits
  have size : (Edit.performed document edit).size + edit.stop =
      edit.offset + Utf8.size edit.inserted + document.size := span.size_replaced edit.inserted
  have order := span.order
  rw [List.flatMap_cons, Utf8.size_append] at fits
  omega

/-- The edits are made, the cursor goes with them, and it stays in the document. -/
theorem exists_stage {edits : List Edit} (room : Room document cursor edits) :
    ∃ edited, Edit.stage document edits = .ok edited ∧
      stage document cursor edits = .ok (edited, edits.foldl Edit.rebase cursor) ∧
        edits.foldl Edit.rebase cursor ≤ edited.size := by
  induction edits generalizing document cursor with
  | nil => exact ⟨document, rfl, rfl, room.inside⟩
  | cons head rest ih =>
      have span := room.descends.span
      have bound : head.stop ≤ document.size := span.last.le_size
      have fits := room.head
      have stop : add head.offset head.length = .ok head.stop := by
        unfold Edit.stop at bound
        exact add_eq (by omega)
      obtain ⟨edited, staged, machine, inside⟩ := ih room.tail
      refine ⟨edited, Edit.stage_cons_eq_ok_iff.mpr ⟨span, staged⟩, ?_, inside⟩
      rw [stage, stop, ok_bind, replace_eq room.sound span fits, ok_bind,
        rebase_eq span room.inside fits, ok_bind]
      exact machine

end Room

/-! ## A batch -/

theorem cursorAfter_eq {strict strictCursor : Bool} {document edited : Document} {cursor : Nat}
    {relocated : Option Nat} {edits : List Edit}
    (inside : edits.foldl Edit.rebase (min cursor document.size) ≤ edited.size)
    (whole : strictCursor = true → relocated = none →
      IsBoundary edited.chars (edits.foldl Edit.rebase (min cursor document.size))) :
    cursorAfter strict strictCursor edited (edits.foldl Edit.rebase (min cursor document.size))
        relocated =
      (document.cursorAfter edited cursor relocated edits).mapError (Halt.ofMisfit strict) := by
  cases relocated with
  | some offset => exact charAtByte_eq strict edited offset
  | none =>
      rw [cursorAfter, Nat.min_eq_left inside]
      exact charOfByte_eq inside fun required => whole required rfl

theorem room_of_validate {document : Document} {batch : Batch} (sound : document.Sound)
    (fits : document.size + Utf8.size (batch.edits.flatMap Edit.inserted) < UInt64.size)
    (checked : Edit.validate document none (Edit.descending batch.edits) = .ok ())
    (cursor : Nat) :
    Room document (min cursor document.size) (Edit.descending batch.edits) := by
  refine ⟨sound, Edit.descends_of_validate checked, Nat.min_le_right _ _, ?_⟩
  have perm := (Edit.descending_perm batch.edits).flatMap_right Edit.inserted
  rwa [Utf8.size_eq_of_perm perm]

/-- The machine applies a batch, or refuses it, as it is done without a bound on the numbers. -/
theorem apply_eq {document : Document} {batch : Batch} (sound : document.Sound)
    (fits : document.size + Utf8.size (batch.edits.flatMap Edit.inserted) < UInt64.size)
    {strict strictCursor : Bool} {cursor : Nat}
    (whole : strictCursor = true → batch.cursor = none →
      IsBoundary document.chars (min cursor document.size)) :
    apply strict strictCursor document cursor batch =
      (document.apply cursor batch).mapError (Halt.ofMisfit strict) := by
  simp only [apply, Document.apply, mapError_bind, validate_eq]
  cases checked : Edit.validate document none (Edit.descending batch.edits) with
  | error cause => rfl
  | ok done =>
      obtain ⟨edited, staged, machine, inside⟩ :=
        (room_of_validate sound fits checked cursor).exists_stage
      have settled :
          cursorAfter strict strictCursor edited _ batch.cursor =
            (document.cursorAfter edited cursor batch.cursor _).mapError (Halt.ofMisfit strict) :=
        cursorAfter_eq inside fun required unplaced =>
          Edit.isBoundary_foldl_rebase staged (whole required unplaced)
      rw [staged, machine]
      change (cursorAfter strict strictCursor edited _ batch.cursor >>= fun position => _) =
        (document.cursorAfter edited cursor batch.cursor _).mapError _ >>= fun position => _
      rw [settled]
      rfl

end Machine

namespace Document

/-- An end that does not fit 64 bits lets the check fail, and is what it complains of where it comes
to it. -/
theorem exists_validate_eq_error_of_unrepresentable
    (document : Document) (higher lower : List Edit) {edit : Edit}
    (tooLarge : UInt64.size ≤ edit.stop) :
    ∃ cause, Edit.validate document none (higher ++ edit :: lower) = .error cause ∧
      (Edit.validate document none higher = .ok () →
        cause = .outOfBounds edit.offset edit.length document.size) := by
  have outside : ¬ edit.IsInside document := fun inside => Nat.not_le.mpr inside.1 tooLarge
  have offends (neighbour : Option Edit) :
      edit.Offends document neighbour (.outOfBounds edit.offset edit.length document.size) :=
    .misplaced (.outside outside)
  cases checked : Edit.validate document none higher with
  | ok done =>
      have failed := (@Edit.validate_eq_error_iff document none (higher ++ edit :: lower) _).mpr
        ⟨higher, edit, lower, rfl, checked, offends _⟩
      exact ⟨_, failed, fun _ => rfl⟩
  | error cause =>
      obtain ⟨before, first, after, rfl, passed, offence⟩ :=
        (@Edit.validate_eq_error_iff document none higher cause).mp checked
      have failed :=
        (@Edit.validate_eq_error_iff document none (before ++ first :: (after ++ edit :: lower))
          cause).mpr ⟨before, first, after ++ edit :: lower, rfl, passed, offence⟩
      refine ⟨cause, ?_, nofun⟩
      rw [List.append_assoc]
      exact failed

/-- An offset in a document is taken back to the start of the character that holds it. -/
theorem isGreatest_byteOfChar_charOfByte {document : Document} {offset : Nat}
    (inside : offset ≤ document.size) :
    IsGreatest {boundary | IsBoundary document.chars boundary ∧ boundary ≤ offset}
      (document.byteOfChar (document.charOfByte offset)) := by
  have greatest := isGreatest_characterStart document.chars offset
  have clamped : min offset (Utf8.size document.chars) = offset := Nat.min_eq_left inside
  rw [clamped] at greatest
  exact greatest

/-- Where a document and all that a batch inserts fit 64 bits, the machine comes to what is come to
without a bound on the numbers: no sum is too large, no difference is below zero and no index is out
of range, and an end of an edit that does not fit is complained of before anything is done. All that
is asked of the text is asked at characters, but for an end of an edit or a cursor of the batch that
is refused for it, and for the cursor of the editor, which is taken back to the start of its
character. -/
theorem apply_never_wraps
    {document : Document} (reached : document.Reachable) {batch : Batch}
    (fits : document.size + Utf8.size (batch.edits.flatMap Edit.inserted) < UInt64.size)
    (cursor : Nat) :
    (∀ strict strictCursor : Bool,
      (strictCursor = true → batch.cursor = none →
        IsBoundary document.chars (min cursor document.size)) →
          Machine.apply strict strictCursor document cursor batch =
            (document.apply cursor batch).mapError (Halt.ofMisfit strict)) ∧
      (∀ strict higher edit lower, Edit.descending batch.edits = higher ++ edit :: lower →
        UInt64.size ≤ edit.stop →
          ∃ cause,
            Machine.validate strict document none (Edit.descending batch.edits) = .error cause ∧
              (Edit.validate document none higher = .ok () →
                cause = .refused (.outOfBounds edit.offset edit.length document.size))) ∧
      document.hostText? = some document.hostText ∧
      ∀ applied edited, document.apply cursor batch = .ok (applied, edited) →
        edited.hostText? = some edited.hostText ∧
          (batch.cursor = none →
            let moved := (Edit.descending batch.edits).foldl Edit.rebase (min cursor document.size)
            moved ≤ edited.size ∧
              IsGreatest {boundary | IsBoundary edited.chars boundary ∧ boundary ≤ moved}
                (edited.byteOfChar applied.cursor)) := by
  have sound := reached.sound
  refine ⟨?_, ?_, sound.cuts.insertReturns?_eq, ?_⟩
  · intro strict strictCursor whole
    exact Machine.apply_eq sound fits whole
  · intro strict higher edit lower order tooLarge
    obtain ⟨cause, failed, first⟩ :=
      exists_validate_eq_error_of_unrepresentable document higher lower tooLarge
    refine ⟨Halt.ofMisfit strict cause, ?_, ?_⟩
    · rw [order, Machine.validate_eq, failed]
      rfl
    · intro checked
      rw [first checked]
      rfl
  · intro applied edited accepted
    refine ⟨(reached.applied accepted).sound.cuts.insertReturns?_eq, ?_⟩
    intro unplaced
    obtain ⟨checked, staged, settled, -⟩ := apply_eq_ok_iff.mp accepted
    obtain ⟨other, otherStaged, -, inside⟩ :=
      (Machine.room_of_validate sound fits checked cursor).exists_stage
    cases staged.symm.trans otherStaged
    rw [unplaced] at settled
    refine ⟨inside, ?_⟩
    rw [← Except.ok.inj settled]
    exact isGreatest_byteOfChar_charOfByte inside

/-- Two edits around a remembered break with the cursor behind them; an end that does not fit 64 bits
behind an edit that is in place; and a cursor inside a character. -/
theorem apply_never_wraps_around_break :
    let document := ofHostText ['a', 'é', '\r', '\n', 'b', '\r', '\n']
    let edited : Document := ⟨['a', '\n', 'ß', '\n', '\n'], .crlf, [1, 4, 5], true⟩
    let batch : Batch := ⟨[⟨1, 2, some ['\n', 'ß']⟩, ⟨4, 1, none⟩], none, false⟩
    let idle : Batch := ⟨[], none, false⟩
    let late : Batch := ⟨[⟨5, UInt64.size - 1, none⟩, ⟨6, 0, none⟩], some 2, false⟩
    let cause : Halt := .refused (.outOfBounds 5 (UInt64.size - 1) 6)
    Machine.apply true true document 6 batch = .ok (⟨5, 2, false⟩, edited) ∧
      Machine.apply true false document 2 idle = .ok (⟨1, 0, false⟩, document) ∧
      Machine.validate true document none (Edit.descending late.edits) = .error cause ∧
      document.hostText? = some ['a', 'é', '\r', '\n', 'b', '\r', '\n'] ∧
      edited.hostText? = some ['a', '\r', '\n', 'ß', '\r', '\n', '\r', '\n'] ∧
      IsGreatest {boundary | IsBoundary edited.chars boundary ∧ boundary ≤ 6} 6 := by
  intro document edited batch idle late cause
  have reached : document.Reachable := .loaded _
  have fits : document.size + Utf8.size (batch.edits.flatMap Edit.inserted) < UInt64.size := by
    decide +kernel
  have fitsIdle : document.size + Utf8.size (idle.edits.flatMap Edit.inserted) < UInt64.size := by
    decide +kernel
  have fitsLate : document.size + Utf8.size (late.edits.flatMap Edit.inserted) < UInt64.size := by
    decide +kernel
  have accepted : document.apply 6 batch = .ok (⟨5, 2, false⟩, edited) := by decide +kernel
  have moved : (Edit.descending batch.edits).foldl Edit.rebase (min 6 document.size) = 6 := by
    decide +kernel
  have unchanged : document.apply 2 idle = .ok (⟨1, 0, false⟩, document) := by decide +kernel
  have order : Edit.descending late.edits = [⟨6, 0, none⟩] ++ ⟨5, UInt64.size - 1, none⟩ :: [] := by
    decide +kernel
  obtain ⟨machine, -, host, taken⟩ := apply_never_wraps reached fits 6
  obtain ⟨machineIdle, -⟩ := apply_never_wraps reached fitsIdle 2
  obtain ⟨-, tooLarge, -⟩ := apply_never_wraps reached fitsLate 2
  have applied := machine true true fun _ _ => by decide +kernel
  have appliedIdle := machineIdle true false nofun
  obtain ⟨hostEdited, rounded⟩ := taken _ _ accepted
  obtain ⟨-, greatest⟩ := rounded rfl
  obtain ⟨complaint, failed, first⟩ := tooLarge true _ _ _ order (by decide +kernel)
  rw [accepted] at applied
  rw [unchanged] at appliedIdle
  rw [first (by decide +kernel)] at failed
  rw [moved] at greatest
  refine ⟨applied, appliedIdle, failed, host.trans ?_, hostEdited.trans ?_, ?_⟩
  · decide +kernel
  · decide +kernel
  · exact greatest

/-- The text is asked for bytes inside a character: for the cursor of the editor, which is accepted,
and for an end of an edit and a cursor of the batch, which are not. -/
theorem text_is_asked_inside_character :
    let document := ofHostText ['a', 'é']
    let idle : Batch := ⟨[], none, false⟩
    let parting : Batch := ⟨[⟨2, 0, none⟩], none, false⟩
    let placing : Batch := ⟨[], some 2, false⟩
    document.Reachable ∧
      document.size + Utf8.size (idle.edits.flatMap Edit.inserted) < UInt64.size ∧
      document.size + Utf8.size (parting.edits.flatMap Edit.inserted) < UInt64.size ∧
      document.size + Utf8.size (placing.edits.flatMap Edit.inserted) < UInt64.size ∧
      ¬ IsBoundary document.chars 2 ∧
      Machine.apply true true document 2 idle = .error (.parted 2) ∧
      document.apply 2 idle = .ok (⟨1, 0, false⟩, document) ∧
      Machine.apply true true document 0 parting = .error (.parted 2) ∧
      document.apply 0 parting = .error (.misaligned 2) ∧
      Machine.apply true true document 0 placing = .error (.parted 2) ∧
      document.apply 0 placing = .error (.misaligned 2) := by
  intro document idle parting placing
  exact ⟨.loaded _, by decide +kernel⟩

end Document

end Reformat
