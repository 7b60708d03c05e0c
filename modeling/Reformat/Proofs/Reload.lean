import Reformat.Proofs.Encoding
import Reformat.Proofs.History
import Reformat.Proofs.Loading

/-!
Writing a document and loading it again. Main statement: as long as the host and all new texts hold
CRs in line breaks at most, the document that is loaded again has the text and the remembered breaks
of the one that was written.
-/

namespace Reformat

theorem not_mem_canonicalize {host : Text}
    (paired : ∀ index < host.length, host[index]? = some '\r' → host[index + 1]? = some '\n') :
    '\r' ∉ canonicalize host := by
  unfold canonicalize
  induction host with
  | nil => exact List.not_mem_nil
  | cons head tail ih =>
      have tailPaired :
          ∀ index < tail.length, tail[index]? = some '\r' → tail[index + 1]? = some '\n' := by
        intro index inside
        exact paired (index + 1) (Nat.succ_lt_succ inside)
      by_cases isReturn : head = '\r'
      · have dropped : tail.head? = some '\n' := by
          rw [List.head?_eq_getElem?]
          exact paired 0 (Nat.succ_pos _) (congrArg some isReturn)
        rw [dropBefore, if_pos ⟨isReturn, dropped⟩]
        exact ih tailPaired
      · rw [dropBefore, if_neg fun both => isReturn both.1, List.mem_cons, not_or]
        exact ⟨fun same => isReturn same.symm, ih tailPaired⟩

namespace Document

/-! ## What is read of the host text -/

/-- In text without CRs, the breaks that the host sees as CRLF are found again, and no others. -/
theorem load_restoreBreaks {breaks : List Nat} {start : Nat} {text : Text}
    (absent : '\r' ∉ text) (remembered : breaks.Sublist (newlineOffsets start text)) :
    canonicalize (restoreBreaks breaks start text) = text ∧
      crlfOffsets start (restoreBreaks breaks start text) = breaks := by
  unfold canonicalize
  induction text generalizing breaks start with
  | nil =>
      rw [List.sublist_nil.mp remembered]
      exact ⟨rfl, rfl⟩
  | cons head tail ih =>
      rw [List.mem_cons, not_or] at absent
      obtain ⟨notReturn, tailAbsent⟩ := absent
      have kept {rest : Text} : ¬ (head = '\r' ∧ rest.head? = some '\n') :=
        fun both => notReturn both.1.symm
      have width := head.utf8Size_pos
      by_cases first : start ∈ breaks
      · -- the break of the head: its CR goes, and the LF itself stays
        obtain ⟨isNewline, rest, rfl, tailRemembered⟩ :
            head = '\n' ∧ ∃ rest, breaks = start :: rest ∧
              rest.Sublist (newlineOffsets (start + head.utf8Size) tail) := by
          rw [newlineOffsets] at remembered
          split at remembered
          · rename_i isNewline
            rcases List.sublist_cons_iff.mp remembered with behind | split
            · have bounds := mem_newlineOffsets_bounds (behind.mem first)
              omega
            · exact ⟨isNewline, split⟩
          · have bounds := mem_newlineOffsets_bounds (remembered.mem first)
            omega
        have above : ∀ later ∈ rest, start < later := by
          intro later member
          have bounds := mem_newlineOffsets_bounds (tailRemembered.mem member)
          omega
        have notLater : start ∉ rest := fun member => Nat.lt_irrefl _ (above start member)
        obtain ⟨text, offsets⟩ := ih tailAbsent tailRemembered
        rw [restoreBreaks_cons (List.cons_ne_nil _ _) above, restoreBreaks, if_neg notLater,
          dropBefore, if_pos ⟨rfl, by rw [isNewline]; rfl⟩, dropBefore, if_neg kept,
          crlfOffsets, if_pos ⟨rfl, by rw [isNewline]; rfl⟩, crlfOffsets, if_neg kept, text,
          offsets]
        exact ⟨rfl, rfl⟩
      · have tailRemembered :
            breaks.Sublist (newlineOffsets (start + head.utf8Size) tail) := by
          rw [newlineOffsets] at remembered
          split at remembered
          · rcases List.sublist_cons_iff.mp remembered with behind | ⟨later, same, -⟩
            · exact behind
            · exact absurd (same ▸ List.mem_cons_self) first
          · exact remembered
        obtain ⟨text, offsets⟩ := ih tailAbsent tailRemembered
        rw [restoreBreaks, if_neg first, dropBefore, if_neg kept, crlfOffsets, if_neg kept, text,
          offsets]
        exact ⟨rfl, rfl⟩

/-- A text without CRs that is loaded with its breaks is the document again, apart from the style
of new breaks and from what has been done with it. -/
theorem Sound.load_hostText {document : Document}
    (sound : document.Sound) (absent : '\r' ∉ document.chars) :
    (ofHostText document.hostText).chars = document.chars ∧
      (ofHostText document.hostText).crlfBreaks = document.crlfBreaks := by
  obtain ⟨text, offsets⟩ := load_restoreBreaks absent sound
  rw [sound.hostText_eq]
  exact ⟨text, offsets⟩

/-! ## Texts without CRs under edits -/

theorem not_mem_replaced {document : Document} {start stop : Nat} {text : Text} {mark : Char}
    (span : document.IsSpan start stop) (absent : mark ∉ document.chars) (plain : mark ∉ text) :
    mark ∉ (document.replaced start stop text).chars := by
  obtain ⟨before, between, after, chars, -, -, result⟩ := span.split
  rw [chars] at absent
  rw [result text]
  simp only [List.mem_append, not_or] at absent ⊢
  exact ⟨absent.1, plain, absent.2.2⟩

theorem not_mem_of_stage {document edited : Document} {edits : List Edit} {mark : Char}
    (staged : Edit.stage document edits = .ok edited)
    (absent : mark ∉ document.chars) (plain : ∀ edit ∈ edits, mark ∉ edit.inserted) :
    mark ∉ edited.chars := by
  induction edits generalizing document with
  | nil =>
      cases staged
      exact absent
  | cons edit rest ih =>
      obtain ⟨span, restStaged⟩ := Edit.stage_cons_eq_ok_iff.mp staged
      obtain ⟨editPlain, restPlain⟩ := List.forall_mem_cons.mp plain
      exact ih restStaged (not_mem_replaced span absent editPlain) restPlain

/-- A batch at a document at hand brings no character that its texts do not hold. -/
theorem not_mem_take_apply {document : Document} {cursor : Nat} {batch : Batch} {mark : Char}
    (absent : mark ∉ document.chars) (plain : ∀ edit ∈ batch.edits, mark ∉ edit.inserted) :
    mark ∉ (document.take (.apply cursor batch)).chars := by
  change mark ∉ ((applyHere cursor batch).on document).2.chars
  rw [on_applyHere]
  cases result : document.apply cursor batch with
  | error cause => exact absent
  | ok success =>
      obtain ⟨-, staged, -⟩ := apply_eq_ok_iff.mp result
      apply not_mem_of_stage staged absent
      intro edit member
      exact plain edit ((Edit.descending_perm batch.edits).mem_iff.mp member)

theorem not_mem_applyAll {document : Document} {calls : List (Nat × Batch)} {mark : Char}
    (absent : mark ∉ document.chars)
    (plain : ∀ call ∈ calls, ∀ edit ∈ call.2.edits, mark ∉ edit.inserted) :
    mark ∉ ((calls.map fun call => Step.apply call.1 call.2).foldl take document).chars := by
  induction calls generalizing document with
  | nil => exact absent
  | cons call rest ih =>
      obtain ⟨callPlain, restPlain⟩ := List.forall_mem_cons.mp plain
      exact ih (not_mem_take_apply absent callPlain) restPlain

/-- Wherever CRs stand in line breaks alone, offsets and positions mean the same before a document
is written and after it has been loaded again. -/
theorem reload_is_stable {host : Text} {calls : List (Nat × Batch)}
    (paired : ∀ index < host.length, host[index]? = some '\r' → host[index + 1]? = some '\n')
    (plain : ∀ call ∈ calls, ∀ edit ∈ call.2.edits, '\r' ∉ edit.inserted) :
    let document := (calls.map fun call => Step.apply call.1 call.2).foldl take (ofHostText host)
    let reloaded := ofHostText document.hostText
    '\r' ∉ document.chars ∧
      canonicalize document.hostText = document.chars ∧
      canonicalizeBytes (Utf8.encode document.hostText) = document.bytes ∧
      reloaded.chars = document.chars ∧
      reloaded.crlfBreaks = document.crlfBreaks ∧
      reloaded.hostText = document.hostText ∧
      (∀ offset, reloaded.charAtByte offset = document.charAtByte offset) ∧
      ∀ index, reloaded.byteOfChar index = document.byteOfChar index := by
  intro document reloaded
  have absent : '\r' ∉ document.chars := not_mem_applyAll (not_mem_canonicalize paired) plain
  have sound : document.Sound := ((Reachable.loaded host).takeAll _).sound
  obtain ⟨chars, breaks⟩ := sound.load_hostText absent
  have text : canonicalize document.hostText = document.chars := chars
  have positions :
      (∀ offset, reloaded.charAtByte offset = document.charAtByte offset) ∧
        ∀ index, reloaded.byteOfChar index = document.byteOfChar index := by
    unfold charAtByte charOfByte byteOfChar size
    rw [chars]
    exact ⟨fun _ => rfl, fun _ => rfl⟩
  have written : reloaded.hostText = document.hostText :=
    (sound_ofHostText document.hostText).hostText_eq.trans (restoreBreaks_crlfOffsets 0 _)
  refine ⟨absent, text, ?_, chars, breaks, written, positions⟩
  rw [canonicalizeBytes_encode, text]
  rfl

/-- A CRLF is deleted and a break inserted, a batch that parts a character is refused, and a CRLF is
replaced by two. -/
theorem reload_is_stable_mixed :
    let host := ['a', '\r', '\n', 'é', '\n', 'b', '\r', '\n']
    let calls : List (Nat × Batch) :=
      [(0, ⟨[⟨4, 0, some ['x', '\n']⟩, ⟨1, 1, none⟩], none, false⟩),
        (0, ⟨[⟨2, 0, none⟩], none, false⟩),
        (9, ⟨[⟨7, 1, some ['\n', '\n']⟩], some 3, false⟩)]
    let document := (calls.map fun call => Step.apply call.1 call.2).foldl take (ofHostText host)
    document = ⟨['a', 'é', 'x', '\n', '\n', 'b', '\n', '\n'], .crlf, [4, 7, 8], true⟩ ∧
      canonicalize document.hostText = document.chars ∧
      (ofHostText document.hostText).crlfBreaks = [4, 7, 8] := by
  intro host calls document
  have reached :
      document = ⟨['a', 'é', 'x', '\n', '\n', 'b', '\n', '\n'], .crlf, [4, 7, 8], true⟩ := by
    decide +kernel
  obtain ⟨-, text, -, -, breaks, -⟩ := @reload_is_stable host calls (by decide) (by decide)
  exact ⟨reached, text, breaks.trans (congrArg crlfBreaks reached)⟩

end Document

end Reformat
