import Reformat.Proofs.Invariant

/-!
Loading a text and writing it back. Main statement: the host gets back the very text that was
loaded, and the canonical text is that text without the CRs that stand directly before an LF.
-/

namespace Reformat

/-- Whether a CR that stands directly before an LF is at an index of a text. -/
def isBreakReturn (host : Text) (index : Nat) : Bool :=
  host[index]? == some '\r' && host[index + 1]? == some '\n'

/-- The characters of a text at all other indices. -/
def withoutBreakReturns (host : Text) : Text :=
  (host.zipIdx.filter fun entry => !isBreakReturn host entry.2).map Prod.fst

theorem isBreakReturn_length (before : Text) (head : Char) (rest : Text) :
    isBreakReturn (before ++ head :: rest) before.length = true ↔
      head = '\r' ∧ rest.head? = some '\n' := by
  have behind : (before ++ head :: rest)[before.length + 1]? = rest.head? := by
    rw [List.getElem?_append_right (Nat.le_add_right _ _), Nat.add_sub_cancel_left,
      List.getElem?_cons_succ, List.head?_eq_getElem?]
  simp [isBreakReturn, behind]

theorem canonicalize_eq_withoutBreakReturns (host : Text) :
    canonicalize host = withoutBreakReturns host := by
  -- the indices are those of the whole text, of which the part `before` has been read
  suffices general : ∀ before rest : Text,
      ((rest.zipIdx before.length).filter fun entry =>
          !isBreakReturn (before ++ rest) entry.2).map Prod.fst = dropBefore '\r' '\n' rest from
    (general [] host).symm
  intro before rest
  induction rest generalizing before with
  | nil => rfl
  | cons head tail ih =>
      have tailKept := ih (before ++ [head])
      rw [List.length_append, List.length_singleton, List.append_assoc] at tailKept
      have returns := isBreakReturn_length before head tail
      rw [List.zipIdx_cons]
      by_cases dropped : head = '\r' ∧ tail.head? = some '\n'
      · rw [dropBefore, if_pos dropped, List.filter_cons_of_neg, ← tailKept]
        · rfl
        · simp [returns.mpr dropped]
      · have kept : isBreakReturn (before ++ head :: tail) before.length = false :=
          Bool.eq_false_iff.mpr fun isReturn => dropped (returns.mp isReturn)
        rw [dropBefore, if_neg dropped, List.filter_cons_of_pos, List.map_cons, ← tailKept]
        · rfl
        · simp [kept]

namespace Document

/-- The CRs that loading drops are put back where they stood. -/
theorem restoreBreaks_crlfOffsets (start : Nat) (host : Text) :
    restoreBreaks (crlfOffsets start host) start (canonicalize host) = host := by
  unfold canonicalize
  induction host generalizing start with
  | nil => rfl
  | cons head rest ih =>
      by_cases dropped : head = '\r' ∧ rest.head? = some '\n'
      · obtain ⟨more, rfl⟩ := List.head?_eq_some_iff.mp dropped.2
        have kept : ¬ (('\n' : Char) = '\r' ∧ more.head? = some '\n') := fun both =>
          absurd both.1 (by decide)
        have nonempty : dropBefore '\r' '\n' ('\n' :: more) ≠ [] := by
          rw [dropBefore, if_neg kept]
          exact List.cons_ne_nil _ _
        -- the LF itself is not dropped, so that the next break stands behind it
        have above : ∀ later ∈ crlfOffsets start ('\n' :: more), start < later := by
          intro later member
          rw [crlfOffsets, if_neg kept] at member
          have bound := le_of_mem_crlfOffsets member
          have width := ('\n' : Char).utf8Size_pos
          omega
        rw [crlfOffsets, if_pos dropped, dropBefore, if_pos dropped,
          restoreBreaks_cons nonempty above, ih, dropped.1]
      · have later : start ∉ crlfOffsets (start + head.utf8Size) rest := by
          intro member
          have bound := le_of_mem_crlfOffsets member
          have width := head.utf8Size_pos
          omega
        rw [crlfOffsets, if_neg dropped, dropBefore, if_neg dropped, restoreBreaks,
          if_neg later, ih]

theorem hostText_of_loaded (host : Text) : (ofHostText host).hostText = host := by
  rw [(sound_ofHostText host).hostText_eq]
  exact restoreBreaks_crlfOffsets 0 host

/-- What is loaded is written back, and nothing is taken out of it but the CRs of its line
breaks. -/
theorem hostText_ofHostText (host : Text) :
    (ofHostText host).hostText = host ∧ (ofHostText host).chars = withoutBreakReturns host := by
  constructor
  · exact hostText_of_loaded host
  · exact canonicalize_eq_withoutBreakReturns host

end Document

end Reformat
