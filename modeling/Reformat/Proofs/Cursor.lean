import Mathlib.Order.Bounds.Basic
import Reformat.Proofs.Division
import Reformat.Proofs.Substitution

/-!
Where a batch takes the cursor. Main statement: a cursor that no edit swallows comes to stand
between the text in front of it and the text behind it, each with its own edits made, a cursor
inside a replaced span comes to stand where the new text of the span begins, and a cursor that the
formatter places is counted in characters.
-/

namespace Reformat

/-! ## The character of an offset -/

/-- The offset at which the character that holds a byte begins, or the end for an offset past it. -/
def characterStart (text : Text) (offset : Nat) : Nat :=
  Utf8.size (text.take (charsWithin text offset))

theorem charsWithin_min_size (text : Text) (offset : Nat) :
    charsWithin text (min offset (Utf8.size text)) = charsWithin text offset := by
  rcases Nat.le_total offset (Utf8.size text) with inside | outside
  · rw [Nat.min_eq_left inside]
  · obtain ⟨extra, rfl⟩ := Nat.exists_eq_add_of_le outside
    have behind := charsWithin_append_add text [] extra
    rw [List.append_nil] at behind
    rw [Nat.min_eq_right outside, charsWithin_size, behind]
    rfl

theorem isBoundary_characterStart (text : Text) (offset : Nat) :
    IsBoundary text (characterStart text offset) :=
  .size_take text _

theorem charsWithin_characterStart (text : Text) (offset : Nat) :
    charsWithin text (characterStart text offset) = charsWithin text offset := by
  unfold characterStart
  rw [charsWithin_size_take, Nat.min_eq_left (charsWithin_le_length text offset)]

theorem isGreatest_characterStart (text : Text) (offset : Nat) :
    IsGreatest {boundary | IsBoundary text boundary ∧ boundary ≤ min offset (Utf8.size text)}
      (characterStart text offset) := by
  have start := isBoundary_characterStart text offset
  refine ⟨⟨start, le_min (size_take_charsWithin_le text offset) start.le_size⟩, ?_⟩
  rintro boundary ⟨isBoundary, bound⟩
  rw [isBoundary.le_iff_charsWithin_le, charsWithin_characterStart]
  exact charsWithin_mono text (le_trans bound (min_le_left _ _))

namespace Edit

/-! ## The cursor as a character position -/

/-- Where a character position goes when the characters from `first` up to `last` give way to
`count` new ones. -/
def rebaseChar (first last count position : Nat) : Nat :=
  if last ≤ position then
    position - last + (first + count)
  else
    min position first

/-- The character of a cursor moves by itself: which byte of it the cursor is at makes no
difference. -/
theorem charsWithin_rebase
    {document : Document} {edit : Edit} (span : document.IsSpan edit.offset edit.stop)
    (cursor : Nat) :
    charsWithin (performed document edit).chars (edit.rebase cursor) =
      rebaseChar (charsWithin document.chars edit.offset) (charsWithin document.chars edit.stop)
        edit.inserted.length (charsWithin document.chars cursor) := by
  have below := span.first.le_iff_charsWithin_le cursor
  have above := span.last.le_iff_charsWithin_le cursor
  obtain ⟨before, between, after, chars, start, stop, result⟩ := span.split
  have performedChars :
      (performed document edit).chars = before ++ (edit.inserted ++ after) := result edit.inserted
  have length : edit.length = Utf8.size between := by
    unfold Edit.stop at stop
    omega
  have firstChar : charsWithin document.chars edit.offset = before.length := by
    rw [chars, ← start, charsWithin_size_append]
  have lastChar :
      charsWithin document.chars edit.stop = before.length + between.length := by
    rw [chars, ← stop, charsWithin_append_add, charsWithin_size_append]
  rw [performedChars]
  unfold rebase rebaseChar
  -- the same cases on both sides: whether the cursor has reached a boundary, its character has too
  by_cases passed : edit.stop ≤ cursor
  · obtain ⟨extra, rfl⟩ := Nat.exists_eq_add_of_le passed
    have moved :
        edit.stop + extra - edit.length + edit.insertedSize =
          Utf8.size (before ++ edit.inserted) + extra := by
      rw [Utf8.size_append]
      unfold insertedSize
      omega
    have old :
        charsWithin document.chars (edit.stop + extra) =
          before.length + between.length + charsWithin after extra := by
      rw [chars, ← stop, ← List.append_assoc, ← Utf8.size_append, charsWithin_append_add,
        List.length_append]
    rw [if_pos passed, if_pos (above.mp passed), moved, ← List.append_assoc,
      charsWithin_append_add, List.length_append, old, firstChar, lastChar]
    omega
  · rw [if_neg passed, if_neg (fun order => passed (above.mpr order)), firstChar]
    by_cases inside : edit.offset < cursor
    · have reached := below.mp (Nat.le_of_lt inside)
      rw [firstChar] at reached
      rw [if_pos inside, ← start, charsWithin_size_append, Nat.min_eq_right reached]
    · have bound : cursor ≤ Utf8.size before := by omega
      have reached := charsWithin_le_length before cursor
      rw [if_neg inside, chars, charsWithin_append_of_le bound, charsWithin_append_of_le bound,
        Nat.min_eq_left reached]

/-- Cursors at bytes of one character are carried to one character. -/
theorem charsWithin_foldl_rebase
    {document edited : Document} {edits : List Edit} {cursor other : Nat}
    (staged : stage document edits = .ok edited)
    (same : charsWithin document.chars cursor = charsWithin document.chars other) :
    charsWithin edited.chars (edits.foldl rebase cursor) =
      charsWithin edited.chars (edits.foldl rebase other) := by
  induction edits generalizing document cursor other with
  | nil =>
      cases staged
      exact same
  | cons head rest ih =>
      obtain ⟨span, restStaged⟩ := stage_cons_eq_ok_iff.mp staged
      apply ih restStaged
      rw [charsWithin_rebase span, charsWithin_rebase span, same]

/-! ## Cursors between edits -/

/-- A cursor behind an edit keeps its distance to the end of the edit. -/
theorem rebase_stop_add (edit : Edit) (gap : Nat) :
    edit.rebase (edit.stop + gap) = edit.offset + edit.insertedSize + gap := by
  unfold rebase stop
  rw [if_pos (Nat.le_add_right _ _)]
  omega

theorem rebase_of_above {edit : Edit} {cursor : Nat}
    (start : cursor ≤ edit.offset) (stop : cursor < edit.stop) : edit.rebase cursor = cursor := by
  unfold rebase
  rw [if_neg (Nat.not_le.mpr stop), if_neg (Nat.not_lt.mpr start)]

theorem rebase_of_inside {edit : Edit} {cursor : Nat}
    (start : edit.offset < cursor) (stop : cursor < edit.stop) :
    edit.rebase cursor = edit.offset := by
  unfold rebase
  rw [if_neg (Nat.not_le.mpr stop), if_pos start]

theorem foldl_rebase_of_above {edits : List Edit} {cursor : Nat}
    (above : ∀ edit ∈ edits, cursor ≤ edit.offset ∧ cursor < edit.stop) :
    edits.foldl rebase cursor = cursor := by
  induction edits with
  | nil => rfl
  | cons head rest ih =>
      obtain ⟨start, stop⟩ := above head List.mem_cons_self
      rw [List.foldl_cons, rebase_of_above start stop]
      exact ih fun edit member => above edit (List.mem_cons_of_mem head member)

/-- A cursor behind all edits goes where its offset comes to lie. -/
theorem foldl_rebase_of_below {document : Document} {edits : List Edit} {cursor : Nat}
    (descends : Descends document edits) (boundary : IsBoundary document.chars cursor)
    (below : ∀ edit ∈ edits, edit.stop ≤ cursor) :
    edits.foldl rebase cursor = landing document.chars cursor edits.reverse := by
  induction edits generalizing document cursor with
  | nil => exact (landing_nil boundary).symm
  | cons head rest ih =>
      -- the edits that are left lie in front of `head`, so that they still end before the moved
      -- cursor
      obtain ⟨gap, rfl⟩ := Nat.exists_eq_add_of_le (below head List.mem_cons_self)
      have movedBoundary :
          IsBoundary (performed document head).chars
            (head.offset + head.insertedSize + gap) :=
        (descends.span.isBoundary_above_iff head.inserted gap).mpr boundary
      have restBelow :
          ∀ edit ∈ rest, edit.stop ≤ head.offset + head.insertedSize + gap := by
        intro edit member
        have reach := descends.below edit member
        omega
      rw [List.foldl_cons, rebase_stop_add, ih descends.tail movedBoundary restBelow,
        Rendering.landing_performed descends boundary]

/-- A cursor inside a span goes the way of the start of the span. -/
theorem foldl_rebase_of_inside {edits : List Edit} {edit : Edit} {cursor : Nat}
    (sorted : edits.Pairwise IsAbove) (member : edit ∈ edits)
    (start : edit.offset < cursor) (stop : cursor < edit.stop) :
    edits.foldl rebase cursor = edits.foldl rebase edit.offset := by
  induction edits with
  | nil => exact absurd member List.not_mem_nil
  | cons head rest ih =>
      obtain ⟨above, restSorted⟩ := List.pairwise_cons.mp sorted
      have width : edit.offset < edit.stop := Nat.lt_trans start stop
      rw [List.foldl_cons, List.foldl_cons]
      rcases List.mem_cons.mp member with rfl | later
      · rw [rebase_of_inside start stop, rebase_of_above (Nat.le_refl _) width]
      · have reach : edit.stop ≤ head.offset := above edit later
        have order := head.offset_le_stop
        rw [rebase_of_above (by omega) (by omega), rebase_of_above (by omega) (by omega)]
        exact ih restSorted later

/-- Where no edit reaches across a boundary, a cursor on it is carried to the end of the text in
front of it. -/
theorem charsWithin_foldl_rebase_of_clear
    {document edited : Document} {edits : List Edit} {limit : Nat}
    (checked : validate document none (descending edits) = .ok ())
    (staged : stage document (descending edits) = .ok edited)
    (boundary : IsBoundary document.chars limit) (clear : Clear edits limit) :
    charsWithin edited.chars ((descending edits).foldl rebase limit) =
      (substituteBelow document.chars limit edits).length := by
  have descends := descends_of_validate checked
  have order := eq_filter_append_of_isAbove descends.sorted limit
  have above :
      ∀ edit ∈ (descending edits).filter fun edit => !decide (edit.stop ≤ limit),
        limit ≤ edit.offset ∧ limit < edit.stop := by
    intro edit member
    obtain ⟨found, behind⟩ := List.mem_filter.mp member
    have across := clear edit ((descending_perm edits).mem_iff.mp found)
    simp only [Bool.not_eq_true', decide_eq_false_iff_not] at behind
    omega
  have below :
      ∀ edit ∈ (descending edits).filter fun edit => edit.stop ≤ limit, edit.stop ≤ limit :=
    fun edit member => of_decide_eq_true (List.mem_filter.mp member).2
  have lower :
      ((descending edits).filter fun edit => edit.stop ≤ limit).reverse =
        ascending (edits.filter fun edit => edit.stop ≤ limit) := by
    rw [ascending_filter, ← List.filter_reverse]
    rfl
  have landed :
      (descending edits).foldl rebase limit =
        Utf8.size (substituteBelow document.chars limit edits) := by
    rw [order, List.foldl_append, foldl_rebase_of_above above,
      foldl_rebase_of_below (descends.of_sublist List.filter_sublist) boundary below, lower]
    rfl
  rw [landed, Document.chars_of_stage checked staged,
    substitute_eq_append descends.sorted clear boundary.le_size, charsWithin_size_append]

/-- The start of an edit of a checked batch is clear of the other edits. -/
theorem clear_offset {document : Document} {edits : List Edit} {edit : Edit}
    (checked : validate document none (descending edits) = .ok ()) (member : edit ∈ edits) :
    Clear edits edit.offset := by
  have found := (descending_perm edits).mem_iff.mpr member
  obtain ⟨higher, lower, order⟩ := List.append_of_mem found
  have descends := descends_of_validate checked
  rw [order] at descends
  obtain ⟨above, below⟩ := descends.bounds
  intro other otherMember
  have otherFound := (descending_perm edits).mem_iff.mpr otherMember
  rw [order, List.append_cons, List.mem_append] at otherFound
  rcases otherFound with made | waiting
  · have bound := above other made
    omega
  · have bound := below other waiting
    omega

end Edit

namespace Document

theorem charsWithin_foldl_rebase_min
    {document edited : Document} {edits : List Edit} (cursor : Nat)
    (staged : Edit.stage document edits = .ok edited) :
    edited.charOfByte (edits.foldl Edit.rebase (min cursor document.size)) =
      charsWithin edited.chars
        (edits.foldl Edit.rebase (characterStart document.chars cursor)) := by
  apply Edit.charsWithin_foldl_rebase staged
  rw [charsWithin_characterStart]
  exact charsWithin_min_size document.chars cursor

/-- Where the cursor of the editor is after a batch. The formatter's own cursor is taken where there
is one; else the cursor, which is at the start of its character, stays between the texts on its two
sides, or comes in front of the text that has taken the place of the one around it. -/
theorem apply_carries_cursor
    {document edited : Document} {cursor : Nat} {batch : Batch} {applied : Applied}
    (accepted : document.apply cursor batch = .ok (applied, edited)) :
    let start := characterStart document.chars cursor
    IsGreatest
        {offset | IsBoundary document.chars offset ∧ offset ≤ min cursor document.size} start ∧
      (batch.cursor = none →
        (Edit.Clear batch.edits start →
          edited.chars =
              Edit.substituteBelow document.chars start batch.edits ++
                Edit.substituteAbove document.chars start batch.edits ∧
            applied.cursor = (Edit.substituteBelow document.chars start batch.edits).length) ∧
        ∀ edit ∈ batch.edits, edit.offset < start → start < edit.stop →
          Edit.substituteBelow document.chars edit.offset batch.edits <+: edited.chars ∧
            applied.cursor =
              (Edit.substituteBelow document.chars edit.offset batch.edits).length) ∧
      ∀ offset ∈ batch.cursor,
        ∃ before, before <+: edited.chars ∧ Utf8.size before = offset ∧
          applied.cursor = before.length := by
  obtain ⟨checked, staged, settled, -⟩ := apply_eq_ok_iff.mp accepted
  have descends := Edit.descends_of_validate checked
  have chars := chars_of_stage checked staged
  intro start
  have boundary : IsBoundary document.chars start := isBoundary_characterStart _ _
  refine ⟨isGreatest_characterStart _ _, ?_, ?_⟩
  · intro unplaced
    rw [unplaced] at settled
    have carried := charsWithin_foldl_rebase_min cursor staged
    rw [Except.ok.inj settled] at carried
    constructor
    · intro clear
      constructor
      · exact chars.trans (Edit.substitute_eq_append descends.sorted clear boundary.le_size)
      · exact carried.trans
          (Edit.charsWithin_foldl_rebase_of_clear checked staged boundary clear)
    · intro edit member startsBefore stopsBehind
      have found := (Edit.descending_perm batch.edits).mem_iff.mpr member
      have offsetBoundary := (descends.spans edit found).first
      have clear := Edit.clear_offset checked member
      have inside :=
        Edit.foldl_rebase_of_inside descends.sorted found startsBefore stopsBehind
      have parts := Edit.substitute_eq_append descends.sorted clear offsetBoundary.le_size
      rw [inside] at carried
      constructor
      · exact ⟨_, (chars.trans parts).symm⟩
      · exact carried.trans
          (Edit.charsWithin_foldl_rebase_of_clear checked staged offsetBoundary clear)
  · intro offset placed
    rw [Option.mem_def.mp placed] at settled
    obtain ⟨⟨before, after, text, size⟩, index⟩ := charAtByte_eq_ok_iff.mp settled
    refine ⟨before, ⟨after, text.symm⟩, size, ?_⟩
    rw [← index, text, ← size, charsWithin_size_append]

/-- A cursor inside a character of three bytes: with edits up to its start and behind it, inside a
replaced span with an insertion at the start of the span, and placed by the formatter. -/
theorem apply_carries_cursor_inside_character :
    let document := Document.ofHostText ['a', 'é', '€', 'b', 'c']
    let around : List Edit := [⟨6, 1, none⟩, ⟨3, 0, some ['x']⟩, ⟨1, 2, some ['É', 'ß', '!']⟩]
    let across : List Edit := [⟨1, 0, some ['y']⟩, ⟨1, 5, some ['_', 'ö', '_']⟩]
    let acrossText := ['a', 'y', '_', 'ö', '_', 'b', 'c']
    characterStart document.chars 4 = 3 ∧
      document.apply 4 ⟨around, none, false⟩ =
        .ok (⟨5, 3, false⟩, ⟨['a', 'É', 'ß', '!', 'x', '€', 'c'], .lf, [], true⟩) ∧
      ['a', 'É', 'ß', '!', 'x', '€', 'c'] =
        Edit.substituteBelow document.chars 3 around ++
          Edit.substituteAbove document.chars 3 around ∧
      5 = (Edit.substituteBelow document.chars 3 around).length ∧
      document.apply 4 ⟨across, none, false⟩ =
        .ok (⟨2, 2, false⟩, ⟨acrossText, .lf, [], true⟩) ∧
      2 = (Edit.substituteBelow document.chars 1 across).length ∧
      document.apply 4 ⟨across, some 5, false⟩ =
        .ok (⟨4, 2, false⟩, ⟨acrossText, .lf, [], true⟩) ∧
      ∃ before : Text, before <+: acrossText ∧ Utf8.size before = 5 ∧ 4 = before.length := by
  intro document around across acrossText
  have accepted :
      document.apply 4 ⟨around, none, false⟩ =
        .ok (⟨5, 3, false⟩, ⟨['a', 'É', 'ß', '!', 'x', '€', 'c'], .lf, [], true⟩) := by
    decide +kernel
  have acceptedAcross :
      document.apply 4 ⟨across, none, false⟩ =
        .ok (⟨2, 2, false⟩, ⟨acrossText, .lf, [], true⟩) := by
    decide +kernel
  have acceptedPlaced :
      document.apply 4 ⟨across, some 5, false⟩ =
        .ok (⟨4, 2, false⟩, ⟨acrossText, .lf, [], true⟩) := by
    decide +kernel
  have start : characterStart document.chars 4 = 3 := by
    decide +kernel
  have clear : Edit.Clear around (characterStart document.chars 4) := by
    rw [start]
    unfold Edit.Clear
    decide
  obtain ⟨text, length⟩ := ((apply_carries_cursor accepted).2.1 rfl).1 clear
  rw [start] at text length
  obtain ⟨-, lengthAcross⟩ :=
    ((apply_carries_cursor acceptedAcross).2.1 rfl).2 ⟨1, 5, some ['_', 'ö', '_']⟩
      (List.mem_cons_of_mem _ List.mem_cons_self) (by rw [start]; decide) (by rw [start]; decide)
  have placed := (apply_carries_cursor acceptedPlaced).2.2 5 rfl
  exact ⟨start, accepted, text, length, acceptedAcross, lengthAcross, acceptedPlaced, placed⟩

end Document

end Reformat
