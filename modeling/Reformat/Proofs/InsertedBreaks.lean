import Reformat.Proofs.Substitution

/-!
The line breaks of inserted text. A new text is written with every LF as a line break of the
document and otherwise verbatim, also where it holds a CRLF already. Main statement: it is written
with its breaks in the style of the document just where it holds no CRLF.
-/

namespace Reformat

/-! ## Text with and without CRLF -/

theorem dropBefore_sublist {α : Type} [DecidableEq α] (first second : α) (items : List α) :
    (dropBefore first second items).Sublist items := by
  induction items with
  | nil => exact List.Sublist.refl _
  | cons head rest ih =>
      unfold dropBefore
      split
      · exact ih.cons head
      · exact ih.cons_cons head

theorem pair_prefix_cons_iff {α : Type} {first second head : α} {rest : List α} :
    [first, second] <+: head :: rest ↔ head = first ∧ rest.head? = some second := by
  cases rest with
  | nil => simp
  | cons next more =>
      simp only [List.cons_prefix_cons, List.nil_prefix, and_true, List.head?_cons,
        Option.some.injEq]
      exact and_congr eq_comm eq_comm

theorem dropBefore_eq_self_iff
    {α : Type} [DecidableEq α] {first second : α} {items : List α} :
    dropBefore first second items = items ↔ ¬ [first, second] <:+: items := by
  induction items with
  | nil => simp [dropBefore]
  | cons head rest ih =>
      rw [List.infix_cons_iff, pair_prefix_cons_iff, not_or, ← ih]
      by_cases dropped : head = first ∧ rest.head? = some second
      · have shorter := (dropBefore_sublist first second rest).length_le
        rw [dropBefore, if_pos dropped]
        constructor
        · intro same
          have longer := congrArg List.length same
          rw [List.length_cons] at longer
          omega
        · rintro ⟨kept, -⟩
          exact absurd dropped kept
      · rw [dropBefore, if_neg dropped]
        simp [dropped]

theorem canonicalize_eq_self_iff {text : Text} :
    canonicalize text = text ↔ ¬ ['\r', '\n'] <:+: text :=
  dropBefore_eq_self_iff

namespace Document

variable {document : Document}

theorem hostInsertion_lf (ending : document.lineEnding = .lf) (text : Text) :
    document.hostInsertion text = text := by
  unfold hostInsertion
  rw [ending]
  exact (restoreBreaks_addedBreaks .lf 0 text).symm.trans (restoreBreaks_nil 0 text)

theorem length_hostInsertion_crlf (ending : document.lineEnding = .crlf) (text : Text) :
    (document.hostInsertion text).length = text.length + text.count '\n' := by
  unfold hostInsertion
  rw [ending]
  induction text with
  | nil => rfl
  | cons head rest ih =>
      rw [List.flatMap_cons, List.length_append, ih, List.length_cons, List.count_cons]
      by_cases isNewline : head = '\n'
      · simp only [isNewline, if_true, LineEnding.text, List.length_cons, List.length_nil,
          beq_self_eq_true]
        omega
      · simp only [isNewline, if_false, List.length_cons, List.length_nil, beq_iff_eq]
        omega

/-- Canonical line breaks make a difference to how text is written just where it has others. -/
theorem hostInsertion_canonicalize_iff (text : Text) :
    document.hostInsertion text = document.hostInsertion (canonicalize text) ↔
      ¬ ['\r', '\n'] <:+: text := by
  rw [← canonicalize_eq_self_iff]
  constructor
  · intro same
    have part : (canonicalize text).Sublist text := dropBefore_sublist _ _ text
    cases ending : document.lineEnding with
    | lf =>
        rw [hostInsertion_lf ending, hostInsertion_lf ending] at same
        exact same.symm
    | crlf =>
        have lengths := congrArg List.length same
        rw [length_hostInsertion_crlf ending, length_hostInsertion_crlf ending] at lengths
        have shorter := part.length_le
        have fewer := part.count_le '\n'
        exact part.eq_of_length (by omega)
  · intro canonical
    rw [canonical]

theorem hostInsertion_newline_cons (ending : document.lineEnding = .crlf) (rest : Text) :
    document.hostInsertion ('\n' :: rest) = '\r' :: '\n' :: document.hostInsertion rest := by
  unfold hostInsertion
  rw [ending]
  rfl

theorem hostInsertion_cons {head : Char} (plain : head ≠ '\n') (rest : Text) :
    document.hostInsertion (head :: rest) = head :: document.hostInsertion rest := by
  unfold hostInsertion
  rw [List.flatMap_cons, if_neg plain]
  rfl

theorem crlf_prefix_hostInsertion_iff (ending : document.lineEnding = .crlf) (text : Text) :
    ['\r', '\n'] <+: document.hostInsertion text ↔ ['\n'] <+: text := by
  cases text with
  | nil => simp [hostInsertion]
  | cons head rest =>
      by_cases isNewline : head = '\n'
      · rw [isNewline, hostInsertion_newline_cons ending]
        simp
      · -- an LF is written behind a CR, so that none comes first in what is written
        have noBare : ¬ ['\n'] <+: document.hostInsertion rest := by
          cases rest with
          | nil => simp [hostInsertion]
          | cons next more =>
              by_cases nextNewline : next = '\n'
              · rw [nextNewline, hostInsertion_newline_cons ending]
                simp
              · rw [hostInsertion_cons nextNewline]
                simp [Ne.symm nextNewline]
        rw [hostInsertion_cons isNewline, List.cons_prefix_cons]
        simp [noBare, Ne.symm isNewline]

/-- In a document of CRLF breaks a CRLF of the new text comes out with a CR too many. -/
theorem doubled_infix_hostInsertion_iff (ending : document.lineEnding = .crlf) (text : Text) :
    ['\r', '\r', '\n'] <:+: document.hostInsertion text ↔ ['\r', '\n'] <:+: text := by
  induction text with
  | nil => simp [hostInsertion]
  | cons head rest ih =>
      by_cases isNewline : head = '\n'
      · rw [isNewline, hostInsertion_newline_cons ending, List.infix_cons_iff,
          List.infix_cons_iff, ih, List.infix_cons_iff]
        simp
      · have front := crlf_prefix_hostInsertion_iff ending rest
        rw [hostInsertion_cons isNewline, List.infix_cons_iff, List.infix_cons_iff, ih,
          List.cons_prefix_cons, List.cons_prefix_cons, front]

theorem Sound.hostText_split {start stop : Nat}
    (sound : document.Sound)
    (first : IsBoundary document.chars start) (last : IsBoundary document.chars stop)
    (order : start ≤ stop) :
    document.hostText =
      document.hostSlice 0 start ++ document.hostSlice start stop ++
        document.hostSlice stop document.size := by
  have upTo := Rendering.host.append (IsBoundary.zero _) first (Nat.zero_le _) order
  have onward := Rendering.host.append (IsBoundary.zero _) last (Nat.zero_le _) last.le_size
  have whole := host_keep_size sound
  rw [← upTo] at onward
  exact whole.symm.trans onward.symm

/-- Where each new text comes to stand, and how it is written there: with its line breaks in the
style of the document just where it holds no CRLF. One that it holds gets a second CR in a document
of CRLF breaks and is kept in a document of LF breaks. -/
theorem apply_writes_breaks
    {document edited : Document} {cursor : Nat} {batch : Batch} {applied : Applied}
    {lower upper : List Edit} {edit : Edit}
    (reached : document.Reachable)
    (accepted : document.apply cursor batch = .ok (applied, edited))
    (place : Edit.ascending batch.edits = lower ++ edit :: upper) :
    let start := Edit.landing document.chars edit.offset lower
    let stop := start + edit.insertedSize
    slice edited.chars start stop = edit.inserted ∧
      edited.hostText =
        edited.hostSlice 0 start ++ edited.hostSlice start stop ++
          edited.hostSlice stop edited.size ∧
      (edited.hostSlice start stop = document.hostInsertion (canonicalize edit.inserted) ↔
        ¬ ['\r', '\n'] <:+: edit.inserted) ∧
      (document.lineEnding = .crlf →
        (['\r', '\r', '\n'] <:+: edited.hostSlice start stop ↔
          ['\r', '\n'] <:+: edit.inserted)) ∧
      (document.lineEnding = .lf →
        (['\r', '\n'] <:+: edited.hostSlice start stop ↔
          ['\r', '\n'] <:+: edit.inserted)) := by
  obtain ⟨checked, staged, -⟩ := apply_eq_ok_iff.mp accepted
  have descends := Edit.descends_of_validate checked
  have order : Edit.descending batch.edits = upper.reverse ++ edit :: lower.reverse := by
    rw [← List.reverse_reverse (Edit.descending batch.edits)]
    change (Edit.ascending batch.edits).reverse = _
    simp [place]
  rw [order] at staged descends
  have shown := Rendering.canonical.keep_inserted trivial descends staged
  have shownHost := Rendering.host.keep_inserted reached.sound descends staged
  rw [List.reverse_reverse] at shown shownHost
  obtain ⟨starts, stops, text⟩ := shown
  obtain ⟨-, -, written⟩ := shownHost
  intro start stop
  have editedSound := (reached.applied accepted).sound
  have whole := editedSound.hostText_split starts stops (Nat.le_add_right _ _)
  have inStyle : edited.hostSlice start stop = document.hostInsertion edit.inserted := written
  rw [inStyle]
  refine ⟨text, inStyle ▸ whole, hostInsertion_canonicalize_iff edit.inserted, ?_, ?_⟩
  · intro ending
    exact doubled_infix_hostInsertion_iff ending edit.inserted
  · intro ending
    rw [hostInsertion_lf ending]

/-- The break of a document of CRLF breaks replaced by a CRLF, and an LF added at its end. -/
theorem apply_writes_breaks_doubled :
    let document := Document.ofHostText ['a', '\r', '\n', 'b']
    let broken : Edit := ⟨1, 1, some ['\r', '\n']⟩
    let added : Edit := ⟨3, 0, some ['\n']⟩
    let edited : Document := ⟨['a', '\r', '\n', 'b', '\n'], .crlf, [2, 4], true⟩
    document.apply 0 ⟨[added, broken], none, false⟩ = .ok (⟨0, 2, false⟩, edited) ∧
      Edit.ascending [added, broken] = [] ++ broken :: [added] ∧
      Edit.landing document.chars 1 [] = 1 ∧
      edited.hostSlice 1 3 = ['\r', '\r', '\n'] ∧
      edited.hostSlice 1 3 ≠ document.hostInsertion (canonicalize broken.inserted) := by
  intro document broken added edited
  have accepted :
      document.apply 0 ⟨[added, broken], none, false⟩ = .ok (⟨0, 2, false⟩, edited) := by
    decide +kernel
  have place : Edit.ascending [added, broken] = [] ++ broken :: [added] := by
    decide +kernel
  obtain ⟨-, -, inStyle, -⟩ := apply_writes_breaks (Reachable.loaded _) accepted place
  refine ⟨accepted, place, rfl, rfl, ?_⟩
  intro same
  exact inStyle.mp same (List.infix_refl _)

/-- Nor does a document of LF breaks write a CRLF as one of its own. -/
theorem apply_keeps_inserted_crlf :
    let document := Document.ofHostText ['a', '\n', 'b']
    let edit : Edit := ⟨1, 1, some ['\r', '\n']⟩
    let edited : Document := ⟨['a', '\r', '\n', 'b'], .lf, [], true⟩
    document.apply 0 ⟨[edit], none, false⟩ = .ok (⟨0, 1, false⟩, edited) ∧
      edited.hostText = ['a', '\r', '\n', 'b'] ∧
      edited.hostSlice 1 3 = ['\r', '\n'] ∧
      document.hostInsertion (canonicalize edit.inserted) = ['\n'] ∧
      edited.hostSlice 1 3 ≠ document.hostInsertion (canonicalize edit.inserted) := by
  decide +kernel

end Document

end Reformat
