import Mathlib.Data.List.Forall2
import Reformat.Proofs.Rearrangement
import Reformat.Proofs.Substitution

/-!
A batch made from the lowest edit up, each one moved by what those before it have added. Main
statement: made in the order of the substitution, against the batch where several texts are inserted
at one offset, the edits give the text of the edited document; made in the order of the batch there,
they give it just where these insertions read the same in both orders.
-/

namespace Reformat

namespace Edit

/-! ## One edit after the other -/

/-- The text with one edit made in it at an offset of its own. -/
def made (text : Text) (start : Nat) (edit : Edit) : Text :=
  slice text 0 start ++ edit.inserted ++ slice text (start + edit.length) (Utf8.size text)

/-- Each edit comes to an offset of the text as it then is, and to a span of whole characters. -/
def FitsForward (text : Text) (added : Int) : List Edit → Prop
  | [] => True
  | edit :: rest =>
      let start := (edit.offset + added).toNat
      0 ≤ edit.offset + added ∧
        IsBoundary text start ∧
        IsBoundary text (start + edit.length) ∧
        FitsForward (made text start edit) (added + edit.insertedSize - edit.length) rest

/-- The edits of a batch by ascending offset, at one offset by ascending length, and those of one
span in the order of the batch. -/
structure IsForward (edits ordered : List Edit) : Prop where
  perm : ordered.Perm edits
  sorted : ordered.Pairwise Ascends
  ties : ∀ offset length,
    ordered.filter (covers offset length) = edits.filter (covers offset length)

/-- There is one such order, and it is that in which the reversed batch is substituted. -/
theorem isForward_iff {edits ordered : List Edit} :
    IsForward edits ordered ↔ ordered = ascending edits.reverse := by
  have reversed (offset length : Nat) :
      (edits.reverse.filter (covers offset length)).reverse =
        edits.filter (covers offset length) := by
    rw [List.filter_reverse, List.reverse_reverse]
  rw [← isAscending_iff]
  constructor
  · intro forward
    refine ⟨forward.perm.trans edits.reverse_perm.symm, forward.sorted, ?_⟩
    intro offset length
    rw [reversed, forward.ties]
  · intro ascends
    refine ⟨ascends.perm.trans edits.reverse_perm, ascends.sorted, ?_⟩
    intro offset length
    rw [ascends.ties, reversed]

theorem made_append (before between after : Text) (edit : Edit)
    (width : Utf8.size between = edit.length) :
    made (before ++ (between ++ after)) (Utf8.size before) edit =
      before ++ edit.inserted ++ after := by
  have kept : slice (before ++ (between ++ after)) 0 (Utf8.size before) = before := by
    rw [slice_append_left (Nat.zero_le _) (Nat.le_refl _), slice_size]
  have behind :
      slice (before ++ (between ++ after)) (Utf8.size before + edit.length)
          (Utf8.size (before ++ (between ++ after))) =
        after := by
    have moved := slice_append_right (before ++ between) after 0 (Utf8.size after)
    rw [slice_size, Nat.add_zero, Utf8.size_append, width] at moved
    rw [← List.append_assoc, Utf8.size_append, Utf8.size_append, width]
    exact moved
  unfold made
  rw [kept, behind]

/-- What is done so far stands in front of the rest of the text as it was. The edits yet to be made
ascend in that rest, and each is moved by what has been added in front of it. -/
theorem forward_eq_assemble {text : Text} (done : Text) {start : Nat} {edits : List Edit}
    (startBoundary : IsBoundary text start)
    (inside : ∀ edit ∈ edits,
      IsBoundary text edit.offset ∧ IsBoundary text edit.stop ∧ start ≤ edit.offset)
    (sorted : edits.Pairwise fun lower upper => lower.stop ≤ upper.offset) :
    let current := done ++ slice text start (Utf8.size text)
    let added : Int := Utf8.size done - start
    FitsForward current added edits ∧
      forward current added edits =
        done ++ assemble (slice text) id (Utf8.size text) start edits := by
  induction edits generalizing start done with
  | nil => exact ⟨trivial, rfl⟩
  | cons edit rest ih =>
      obtain ⟨above, restSorted⟩ := List.pairwise_cons.mp sorted
      obtain ⟨first, last, reached⟩ := inside edit List.mem_cons_self
      have restInside : ∀ later ∈ rest,
          IsBoundary text later.offset ∧ IsBoundary text later.stop ∧
            edit.stop ≤ later.offset := by
        intro later member
        obtain ⟨laterFirst, laterLast, -⟩ := inside later (List.mem_cons_of_mem edit member)
        exact ⟨laterFirst, laterLast, above later member⟩
      intro current added
      -- the text at hand in three parts: up to the span of the edit, the span, what is behind it
      let before := done ++ slice text start edit.offset
      let between := slice text edit.offset edit.stop
      let after := slice text edit.stop (Utf8.size text)
      have gap := size_slice startBoundary first reached
      have width : Utf8.size between = edit.length := by
        have span := size_slice first last edit.offset_le_stop
        change edit.offset + Utf8.size between = edit.offset + edit.length at span
        omega
      have parts : current = before ++ (between ++ after) := by
        simp only [current, before, between, after, List.append_assoc]
        rw [slice_append_slice text edit.offset_le_stop last.le_size,
          slice_append_slice text reached first.le_size]
      have place : edit.offset + added = Utf8.size before := by
        simp only [added, before, Utf8.size_append]
        omega
      have start : (edit.offset + added).toNat = Utf8.size before := by omega
      have next : added + edit.insertedSize - edit.length =
          (Utf8.size (before ++ edit.inserted) : Int) - edit.stop := by
        rw [Utf8.size_append]
        unfold insertedSize stop
        omega
      obtain ⟨restFits, restText⟩ := ih (before ++ edit.inserted) last restInside restSorted
      have result : made current (edit.offset + added).toNat edit =
          before ++ edit.inserted ++ after := by
        rw [start, parts, made_append before between after edit width]
      constructor
      · refine ⟨by omega, ?_, ?_, ?_⟩
        · rw [start, parts]
          exact ⟨before, between ++ after, rfl, rfl⟩
        · rw [start, parts, ← width, ← List.append_assoc, ← Utf8.size_append]
          exact ⟨before ++ between, after, rfl, rfl⟩
        · rw [result, next]
          exact restFits
      · change forward (made current (edit.offset + added).toNat edit)
          (added + edit.insertedSize - edit.length) rest = _
        rw [result, next, restText]
        simp only [assemble, before, id_eq, List.append_assoc]

/-! ## Insertions at one offset -/

/-- All that is inserted at an offset, in the order given. -/
def insertedAt (offset : Nat) (edits : List Edit) : Text :=
  (edits.filter (covers offset 0)).flatMap inserted

/-- The same where a text has been inserted before at the offset `start`. -/
def insertedBehind (earlier : Text) (start : Nat) (edits : List Edit) (offset : Nat) : Text :=
  (if offset = start then earlier else []) ++ insertedAt offset edits

/-- Edits that take the place of one another: two insertions at one offset, or one edit twice. -/
structure Matches (first second : Edit) : Prop where
  key : first.key = second.key
  replacement : first.length ≠ 0 → first = second

theorem insertedAt_cons_insertion {edit : Edit} (insertion : edit.length = 0) (rest : List Edit) :
    insertedAt edit.offset (edit :: rest) = edit.inserted ++ insertedAt edit.offset rest := by
  have covered : covers edit.offset 0 edit = true := by simp [covers, insertion]
  unfold insertedAt
  rw [List.filter_cons_of_pos covered, List.flatMap_cons]

theorem insertedAt_cons_of_not {edit : Edit} {offset : Nat}
    (other : ¬ (edit.offset = offset ∧ edit.length = 0)) (rest : List Edit) :
    insertedAt offset (edit :: rest) = insertedAt offset rest := by
  have missed : ¬ covers offset 0 edit = true := by
    simp only [covers, Bool.and_eq_true, beq_iff_eq]
    exact other
  unfold insertedAt
  rw [List.filter_cons_of_neg missed]

theorem insertedAt_of_above {edits : List Edit} {offset : Nat}
    (above : ∀ edit ∈ edits, offset < edit.offset) :
    insertedAt offset edits = [] := by
  have none : edits.filter (covers offset 0) = [] := by
    rw [List.filter_eq_nil_iff]
    intro edit member covered
    have distance := above edit member
    simp only [covers, Bool.and_eq_true, beq_iff_eq] at covered
    omega
  rw [insertedAt, none, List.flatMap_nil]

theorem insertedAt_reverse_perm (offset : Nat) (edits : List Edit) :
    (insertedAt offset edits.reverse).Perm (insertedAt offset edits) :=
  (edits.reverse_perm.filter _).flatMap_right inserted

/-- An insertion at `start` only adds to what has been inserted there. -/
theorem insertedBehind_cons_insertion {edit : Edit} {start : Nat}
    (here : edit.offset = start) (insertion : edit.length = 0)
    (earlier : Text) (rest : List Edit) :
    insertedBehind earlier start (edit :: rest) =
      insertedBehind (earlier ++ edit.inserted) start rest := by
  funext offset
  unfold insertedBehind
  by_cases atStart : offset = start
  · rw [atStart, ← here, insertedAt_cons_insertion insertion, if_pos rfl, if_pos rfl,
      List.append_assoc]
  · have elsewhere : ¬ (edit.offset = offset ∧ edit.length = 0) :=
      fun both => atStart (both.1.symm.trans here)
    rw [insertedAt_cons_of_not elsewhere, if_neg atStart, if_neg atStart]

theorem insertedBehind_cons_replacement {edit : Edit} (replacement : edit.length ≠ 0)
    (earlier : Text) (start : Nat) (rest : List Edit) :
    insertedBehind earlier start (edit :: rest) = insertedBehind earlier start rest := by
  funext offset
  unfold insertedBehind
  rw [insertedAt_cons_of_not fun both => replacement both.2]

theorem insertedBehind_nil (start : Nat) (edits : List Edit) :
    insertedBehind [] start edits = fun offset => insertedAt offset edits := by
  funext offset
  unfold insertedBehind
  rw [ite_self, List.nil_append]

section

variable {earlier other : Text} {start : Nat} {first second : List Edit}

/-- Where no edit is an insertion at `start`, what has been inserted there before stands alone. -/
theorem insertedBehind_eq_iff
    (none : insertedAt start first = []) (noneOther : insertedAt start second = []) :
    insertedBehind earlier start first = insertedBehind other start second ↔
      earlier = other ∧ ∀ offset, insertedAt offset first = insertedAt offset second := by
  rw [funext_iff]
  unfold insertedBehind
  constructor
  · intro same
    have here := same start
    rw [if_pos rfl, if_pos rfl, none, noneOther, List.append_nil, List.append_nil] at here
    refine ⟨here, ?_⟩
    intro offset
    by_cases atStart : offset = start
    · rw [atStart, none, noneOther]
    · have there := same offset
      rwa [if_neg atStart, if_neg atStart] at there
  · rintro ⟨rfl, same⟩ offset
    rw [same offset]

theorem length_insertedBehind
    (none : insertedAt start first = []) (noneOther : insertedAt start second = [])
    (lengths : ∀ offset,
      (insertedBehind earlier start first offset).length =
        (insertedBehind other start second offset).length) :
    earlier.length = other.length ∧
      ∀ offset, (insertedAt offset first).length = (insertedAt offset second).length := by
  unfold insertedBehind at lengths
  constructor
  · have here := lengths start
    rwa [if_pos rfl, if_pos rfl, none, noneOther, List.append_nil, List.append_nil] at here
  · intro offset
    by_cases atStart : offset = start
    · rw [atStart, none, noneOther]
    · have there := lengths offset
      rwa [if_neg atStart, if_neg atStart] at there

theorem Matches.forall_offset {property : Nat → Prop} (matched : List.Forall₂ Matches first second)
    (holds : ∀ edit ∈ first, property edit.offset) : ∀ edit ∈ second, property edit.offset := by
  induction matched with
  | nil => exact holds
  | cons heads tails ih =>
      obtain ⟨offset, -⟩ := Prod.mk.inj heads.key
      obtain ⟨head, rest⟩ := List.forall_mem_cons.mp holds
      exact List.forall_mem_cons.mpr ⟨offset ▸ head, ih rest⟩

end

theorem insertedAt_cons_of_lt {edit : Edit} {rest : List Edit} {start : Nat}
    (beyond : start < edit.stop) (above : ∀ later ∈ rest, edit.stop ≤ later.offset) :
    insertedAt start (edit :: rest) = [] := by
  have other : ¬ (edit.offset = start ∧ edit.length = 0) := by
    unfold stop at beyond
    omega
  rw [insertedAt_cons_of_not other]
  exact insertedAt_of_above fun later member => Nat.lt_of_lt_of_le beyond (above later member)

theorem slice_self (text : Text) (offset : Nat) : slice text offset offset = [] :=
  List.drop_eq_nil_of_le (List.length_take_le _ _)

theorem append_assemble_cons_insertion {edit : Edit} {start : Nat}
    (here : edit.offset = start) (insertion : edit.length = 0)
    (text earlier : Text) (size : Nat) (rest : List Edit) :
    earlier ++ assemble (slice text) id size start (edit :: rest) =
      earlier ++ edit.inserted ++ assemble (slice text) id size start rest := by
  have stays : edit.stop = start := by
    unfold stop
    omega
  simp [assemble, here, stays, slice_self]

/-- Ascending edits that match one another make the same text just where at each offset the same is
inserted. At an offset where more insertions may follow, both sides have as many characters in all,
so that the texts can be compared once the edits have gone beyond it. -/
theorem append_assemble_eq_iff
    {text earlier other : Text} {size start : Nat} {first second : List Edit}
    (matched : List.Forall₂ Matches first second)
    (reached : ∀ edit ∈ first, start ≤ edit.offset)
    (sorted : first.Pairwise fun lower upper => lower.stop ≤ upper.offset)
    (lengths : ∀ offset,
      (insertedBehind earlier start first offset).length =
        (insertedBehind other start second offset).length) :
    earlier ++ assemble (slice text) id size start first =
        other ++ assemble (slice text) id size start second ↔
      insertedBehind earlier start first = insertedBehind other start second := by
  induction matched generalizing earlier other start with
  | nil =>
      rw [insertedBehind_eq_iff rfl rfl]
      simp [assemble]
  | @cons edit counterpart rest others heads tails ih =>
      obtain ⟨above, restSorted⟩ := List.pairwise_cons.mp sorted
      obtain ⟨sameOffset, sameLength⟩ :
          edit.offset = counterpart.offset ∧ edit.length = counterpart.length :=
        Prod.mk.inj heads.key
      have sameStop : edit.stop = counterpart.stop := congrArg₂ _ sameOffset sameLength
      by_cases insertionHere : edit.offset = start ∧ edit.length = 0
      · obtain ⟨here, insertion⟩ := insertionHere
        have otherHere : counterpart.offset = start := sameOffset.symm.trans here
        have otherInsertion : counterpart.length = 0 := sameLength.symm.trans insertion
        rw [insertedBehind_cons_insertion here insertion,
          insertedBehind_cons_insertion otherHere otherInsertion] at lengths ⊢
        rw [append_assemble_cons_insertion here insertion,
          append_assemble_cons_insertion otherHere otherInsertion]
        exact ih (fun later member => reached later (List.mem_cons_of_mem edit member))
          restSorted lengths
      · have beyond : start < edit.stop := by
          have headReached := reached edit List.mem_cons_self
          unfold stop
          omega
        have othersAbove := Matches.forall_offset tails above
        have none := insertedAt_cons_of_lt beyond above
        have noneOther := insertedAt_cons_of_lt (sameStop ▸ beyond) (sameStop ▸ othersAbove)
        obtain ⟨sameFront, restLengths⟩ := length_insertedBehind none noneOther lengths
        have cut :
            earlier ++ assemble (slice text) id size start (edit :: rest) =
                other ++ assemble (slice text) id size start (counterpart :: others) ↔
              earlier = other ∧
                edit.inserted ++ assemble (slice text) id size edit.stop rest =
                  counterpart.inserted ++ assemble (slice text) id size edit.stop others := by
          simp only [assemble, id_eq, List.append_assoc, ← sameOffset, ← sameStop]
          constructor
          · intro same
            obtain ⟨front, behind⟩ := List.append_inj same sameFront
            exact ⟨front, List.append_cancel_left behind⟩
          · rintro ⟨rfl, same⟩
            rw [same]
        rw [insertedBehind_eq_iff none noneOther, cut, and_congr_right_iff]
        intro _
        rw [← funext_iff, ← insertedBehind_nil edit.stop, ← insertedBehind_nil edit.stop]
        simp only [funext_iff.mp (insertedBehind_nil edit.stop _).symm] at restLengths
        by_cases insertion : edit.length = 0
        · have stays : edit.offset = edit.stop := by
            unfold stop
            omega
          have otherInsertion : counterpart.length = 0 := sameLength.symm.trans insertion
          rw [insertedBehind_cons_insertion stays insertion,
            insertedBehind_cons_insertion (sameOffset ▸ stays) otherInsertion] at restLengths ⊢
          exact ih above restSorted restLengths
        · obtain rfl := heads.replacement insertion
          rw [insertedBehind_cons_replacement insertion,
            insertedBehind_cons_replacement insertion] at restLengths ⊢
          rw [List.append_cancel_left_eq]
          exact ih above restSorted restLengths

/-! ## A batch and its reverse -/

theorem insertedAt_ascending (offset : Nat) (edits : List Edit) :
    insertedAt offset (ascending edits) = insertedAt offset edits.reverse := by
  unfold insertedAt
  rw [(isAscending_ascending edits).ties, List.filter_reverse]

theorem matches_ascending_reverse {edits : List Edit} (apart : edits.Pairwise Apart) :
    List.Forall₂ Matches (ascending edits) (ascending edits.reverse) := by
  have keys : (ascending edits).map key = (ascending edits.reverse).map key := by
    unfold ascending
    rw [List.map_reverse, List.map_reverse, map_key_descending_of_perm edits.reverse_perm.symm]
  have pairs : List.Forall₂ (fun first second => first.key = second.key)
      (ascending edits) (ascending edits.reverse) :=
    List.forall₂_map_left_iff.mp (List.forall₂_map_right_iff.mp (List.forall₂_eq_eq_eq ▸ keys))
  obtain ⟨lengths, zipped⟩ := List.forall₂_iff_zip.mp pairs
  refine List.forall₂_iff_zip.mpr ⟨lengths, ?_⟩
  intro first second pair
  obtain ⟨firstMember, secondMember⟩ := List.of_mem_zip pair
  refine ⟨zipped pair, ?_⟩
  intro replacement
  have firstGiven : first ∈ edits := mem_ascending_iff.mp firstMember
  have secondGiven : second ∈ edits := List.mem_reverse.mp (mem_ascending_iff.mp secondMember)
  exact eq_of_key_eq apart firstGiven secondGiven (zipped pair) fun _ both => replacement both.1

theorem ascending_pairwise_of_apart {edits : List Edit} (apart : edits.Pairwise Apart) :
    (ascending edits).Pairwise fun lower upper => lower.stop ≤ upper.offset :=
  List.pairwise_reverse.mpr (pairwise_isAbove_descending_iff.mpr apart)

theorem substitute_eq_substitute_reverse_iff {text : Text} {edits : List Edit}
    (apart : edits.Pairwise Apart) :
    substitute text edits = substitute text edits.reverse ↔
      ∀ offset, insertedAt offset edits = insertedAt offset edits.reverse := by
  have lengths (offset : Nat) :
      (insertedBehind [] 0 (ascending edits) offset).length =
        (insertedBehind [] 0 (ascending edits.reverse) offset).length := by
    simp only [insertedBehind_nil, insertedAt_ascending, List.reverse_reverse]
    exact (insertedAt_reverse_perm offset edits).length_eq
  have same :
      [] ++ substitute text edits = [] ++ substitute text edits.reverse ↔
        insertedBehind [] 0 (ascending edits) = insertedBehind [] 0 (ascending edits.reverse) :=
    append_assemble_eq_iff (matches_ascending_reverse apart) (fun _ _ => Nat.zero_le _)
      (ascending_pairwise_of_apart apart) lengths
  rw [insertedBehind_nil, insertedBehind_nil, funext_iff] at same
  simp only [insertedAt_ascending, List.reverse_reverse, List.nil_append] at same
  exact same.trans (forall_congr' fun _ => eq_comm)

/-- Disjoint edits made one after the other from the lowest up make what they substitute. -/
theorem forward_ascending {text : Text} {edits : List Edit}
    (fits : ∀ edit ∈ edits, edit.Fits text) (apart : edits.Pairwise Apart) :
    FitsForward text 0 (ascending edits) ∧
      forward text 0 (ascending edits) = substitute text edits := by
  have inside : ∀ edit ∈ ascending edits,
      IsBoundary text edit.offset ∧ IsBoundary text edit.stop ∧ 0 ≤ edit.offset := by
    intro edit member
    have fit := fits edit (mem_ascending_iff.mp member)
    exact ⟨fit.first, fit.last, Nat.zero_le _⟩
  have run := forward_eq_assemble [] (IsBoundary.zero text) inside
    (ascending_pairwise_of_apart apart)
  simpa [slice_size, substitute] using run

end Edit

namespace Document

/-- Made from the lowest up against the batch, the edits of a batch make the edited text. Made in
the order of the batch at one offset, they can all be made as well, and make the edited text just
where what they insert at each offset reads the same in both orders. -/
theorem apply_runs_forward
    {document edited : Document} {cursor : Nat} {batch : Batch} {applied : Applied}
    (accepted : document.apply cursor batch = .ok (applied, edited)) :
    edited.chars = Edit.forward document.chars 0 (Edit.ascending batch.edits) ∧
      (∀ ordered,
        Edit.IsForward batch.edits ordered ↔ ordered = Edit.ascending batch.edits.reverse) ∧
      ∀ ordered, Edit.IsForward batch.edits ordered →
        Edit.FitsForward document.chars 0 ordered ∧
          (edited.chars = Edit.forward document.chars 0 ordered ↔
            ∀ offset,
              Edit.insertedAt offset batch.edits = Edit.insertedAt offset batch.edits.reverse) := by
  obtain ⟨checked, staged, -⟩ := apply_eq_ok_iff.mp accepted
  obtain ⟨fits, apart⟩ := Edit.validate_descending_eq_ok_iff.mp checked
  have reverseFits : ∀ edit ∈ batch.edits.reverse, edit.Fits document.chars :=
    fun edit member => fits edit (List.mem_reverse.mp member)
  have reverseApart : batch.edits.reverse.Pairwise Edit.Apart :=
    (batch.edits.reverse_perm.pairwise_iff Edit.Apart.symm).mpr apart
  obtain ⟨-, downward⟩ := Edit.forward_ascending fits apart
  obtain ⟨upwardFits, upward⟩ := Edit.forward_ascending reverseFits reverseApart
  have chars := chars_of_stage checked staged
  refine ⟨chars.trans downward.symm, fun _ => Edit.isForward_iff, ?_⟩
  intro ordered forward
  rw [Edit.isForward_iff.mp forward, upward, chars]
  exact ⟨upwardFits, Edit.substitute_eq_substitute_reverse_iff apart⟩

/-- Two insertions of one letter, once and twice, in front of a replaced span: they read the same in
both orders, and the edits make the edited text in the order of the batch too. -/
theorem apply_runs_forward_at_one_offset :
    let document := Document.ofHostText ['a', '\r', '\n', 'é', '€', 'b']
    let edits : List Edit :=
      [⟨2, 2, some ['É', '\n']⟩, ⟨2, 0, some ['x']⟩, ⟨7, 1, none⟩, ⟨2, 0, some ['x', 'x']⟩]
    let ordered : List Edit :=
      [⟨2, 0, some ['x']⟩, ⟨2, 0, some ['x', 'x']⟩, ⟨2, 2, some ['É', '\n']⟩, ⟨7, 1, none⟩]
    let edited : Document := ⟨['a', '\n', 'x', 'x', 'x', 'É', '\n', '€'], .crlf, [1, 7], true⟩
    document.apply 0 ⟨edits, none, false⟩ = .ok (⟨0, 4, false⟩, edited) ∧
      Edit.IsForward edits ordered ∧
      Edit.FitsForward document.chars 0 ordered ∧
      edited.chars = Edit.forward document.chars 0 ordered := by
  intro document edits ordered edited
  have accepted :
      document.apply 0 ⟨edits, none, false⟩ = .ok (⟨0, 4, false⟩, edited) := by
    decide +kernel
  obtain ⟨-, only, each⟩ := apply_runs_forward accepted
  have forward : Edit.IsForward edits ordered := (only ordered).mpr rfl
  obtain ⟨fits, same⟩ := each ordered forward
  refine ⟨accepted, forward, fits, same.mpr ?_⟩
  intro offset
  by_cases here : offset = 2
  · rw [here]
    rfl
  · have elsewhere : ¬ 2 = offset := fun same => here same.symm
    simp [edits, Edit.insertedAt, Edit.covers, elsewhere]

/-- Two insertions at one offset come out in the reverse order of the batch, which is not what they
make one after the other. -/
theorem apply_reverses_insertions :
    let document := Document.ofHostText ['a', 'b']
    let edits : List Edit := [⟨1, 0, some ['x']⟩, ⟨1, 0, some ['y']⟩]
    let edited : Document := ⟨['a', 'y', 'x', 'b'], .lf, [], true⟩
    document.apply 0 ⟨edits, none, false⟩ = .ok (⟨0, 2, false⟩, edited) ∧
      Edit.IsForward edits edits ∧
      Edit.forward document.chars 0 edits = ['a', 'x', 'y', 'b'] ∧
      edited.chars ≠ Edit.forward document.chars 0 edits := by
  intro document edits edited
  have forward : Edit.forward document.chars 0 edits = ['a', 'x', 'y', 'b'] := by
    decide +kernel
  refine ⟨by decide +kernel, Edit.isForward_iff.mpr rfl, forward, ?_⟩
  rw [forward]
  decide

end Document

end Reformat
