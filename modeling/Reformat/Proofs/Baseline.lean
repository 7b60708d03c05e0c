import Mathlib.Data.List.Induction
import Mathlib.Data.List.Infix
import Reformat.Proofs.Consultation
import Reformat.Proofs.Encoding
import Reformat.Proofs.InsertedBreaks

/-!
What the lines of a document are compared with. A revision comes as bytes and the document from a
host text, and both lose their CRLFs. Main statement: the two are compared without a difference just
where they have the same canonical text, and then nothing is formatted.
-/

namespace Reformat

/-! ## Canonical text by replacement -/

/-- The text behind the first `skipped` characters, in which each occurrence of `old`, from the left
on and without overlaps, is replaced by `new`. -/
def replaceFrom (old new : Text) : Nat → Text → Text
  | _, [] => []
  | skipped + 1, _ :: rest => replaceFrom old new skipped rest
  | 0, head :: rest =>
      if old <+: head :: rest then
        new ++ replaceFrom old new (old.length - 1) rest
      else
        head :: replaceFrom old new 0 rest

/-- The text with each occurrence of `old`, which is not empty, replaced by `new`. -/
def replaceAll (old new text : Text) : Text :=
  replaceFrom old new 0 text

section

variable {old new rest : Text} {head : Char}

theorem replaceAll_cons_of_prefix (found : old <+: head :: rest) :
    replaceAll old new (head :: rest) = new ++ replaceFrom old new (old.length - 1) rest :=
  if_pos found

theorem replaceAll_cons_of_not_prefix (other : ¬ old <+: head :: rest) :
    replaceAll old new (head :: rest) = head :: replaceAll old new rest :=
  if_neg other

theorem canonicalize_cons_of_crlf (crlf : ['\r', '\n'] <+: head :: rest) :
    canonicalize (head :: rest) = canonicalize rest :=
  if_pos (pair_prefix_cons_iff.mp crlf)

theorem canonicalize_cons_of_not_crlf (other : ¬ ['\r', '\n'] <+: head :: rest) :
    canonicalize (head :: rest) = head :: canonicalize rest :=
  if_neg (mt pair_prefix_cons_iff.mpr other)

end

/-- The pass over the text drops the CR of each CRLF that the replacement finds. -/
theorem canonicalize_eq_replaceAll (host : Text) :
    canonicalize host = replaceAll ['\r', '\n'] ['\n'] host := by
  induction host using List.twoStepInduction with
  | nil => rfl
  | singleton only =>
      have single : ¬ ['\r', '\n'] <+: [only] := by
        simp
      rw [canonicalize_cons_of_not_crlf single, replaceAll_cons_of_not_prefix single]
      rfl
  | cons_cons head next rest behind following =>
      by_cases crlf : ['\r', '\n'] <+: head :: next :: rest
      · have newline : next = '\n' := Option.some.inj (pair_prefix_cons_iff.mp crlf).2
        have kept : ¬ ['\r', '\n'] <+: next :: rest := by
          simp [newline]
        rw [canonicalize_cons_of_crlf crlf, canonicalize_cons_of_not_crlf kept, behind,
          replaceAll_cons_of_prefix crlf, newline]
        rfl
      · rw [canonicalize_cons_of_not_crlf crlf, following, replaceAll_cons_of_not_prefix crlf]

/-- Text that needs no replacement is taken as it is. -/
theorem canonicalize_eq_ite (host : Text) :
    canonicalize host =
      if ['\r', '\n'] <:+: host then replaceAll ['\r', '\n'] ['\n'] host else host := by
  split
  · exact canonicalize_eq_replaceAll host
  next canonical => exact canonicalize_eq_self_iff.mpr canonical

/-! ## What is compared -/

/-- Contents that are alike are found to have no changed lines, whatever was asked before. -/
def Helpers.FindAlike (helpers : Helpers) : Prop :=
  ∀ asked content, helpers.changes (asked ++ [.comparison content content]) = .ok []

section

variable {helpers : Helpers} {desk left : Desk} {cursor : Nat} {style : Style}
  {result : Except Failure Outcome} {path : Path} {revision : Text} {baseline : Bytes}

theorem Compares.asked_eq {compared : Desk}
    (compares : Compares helpers desk path revision compared)
    (given : helpers.content (desk.ask (.revision path revision)).asked = .ok baseline) :
    compared.asked =
      desk.asked ++
        [.revision path revision,
          .comparison (canonicalizeBytes baseline) desk.document.bytes] := by
  cases compares with
  | asked found =>
      rw [given] at found
      rw [← Except.ok.inj found]
      exact List.append_assoc _ _ _

/-- A revision that has been read is compared once, and only the formatter is asked after that. -/
theorem Ends.exists_asked_eq
    (ends : Ends helpers desk cursor style (.changedLines (some path) revision) result left)
    (given : helpers.content (desk.ask (.revision path revision)).asked = .ok baseline) :
    ∃ later,
      left.asked =
          desk.asked ++
            [.revision path revision,
              .comparison (canonicalizeBytes baseline) desk.document.bytes] ++ later ∧
        ∀ question ∈ later, ∃ content request, question = .formatting content request := by
  cases ends with
  | unread failed =>
      rw [given] at failed
      cases failed
  | uncompared compares failed =>
      exact ⟨[], by rw [compares.asked_eq given, List.append_nil], by simp⟩
  | unchanged compares same =>
      exact ⟨[], by rw [compares.asked_eq given, List.append_nil], by simp⟩
  | changed compares found changes ends =>
      have asked := ends.asked_eq
      rw [Desk.ask, compares.asked_eq given] at asked
      refine ⟨_, asked, ?_⟩
      intro question member
      exact ⟨_, _, List.mem_singleton.mp member⟩

/-- A document that is compared with its own bytes is left unformatted. -/
theorem Ends.unchanged_of_alike
    (given : helpers.content (desk.ask (.revision path revision)).asked = .ok baseline)
    (same : canonicalizeBytes baseline = desk.document.bytes) (alike : helpers.FindAlike) :
    Ends helpers desk cursor style (.changedLines (some path) revision) (.ok .unchanged)
      ((desk.ask (.revision path revision)).ask
        (.comparison desk.document.bytes desk.document.bytes)) := by
  have compares := Compares.asked given
  rw [same] at compares
  exact .unchanged compares (alike _ _)

end

/-- The bytes of a text lose their CRLFs as a document of that text does. The contents that are
compared are therefore alike just where both texts have the same canonical text, and where no
changes are found in that, the document is left as it was and no formatter is asked. -/
theorem canonically_alike_is_unchanged (host : Text) :
    let document := Document.ofHostText host
    canonicalizeBytes (Utf8.encode host) = document.bytes ∧
      document.chars =
        (if ['\r', '\n'] <:+: host then replaceAll ['\r', '\n'] ['\n'] host else host) ∧
      ∀ (helpers : Helpers) (earlier : Text) (asked : List Question) (path : Path)
          (revision : Text) (cursor : Nat) (style : Style),
        helpers.content (asked ++ [.revision path revision]) = .ok (Utf8.encode earlier) →
        let baseline := canonicalizeBytes (Utf8.encode earlier)
        let ended :=
          ((Operation.changedLines (some path) revision).carryOut helpers cursor style).on
            ⟨document, asked⟩
        (∃ later,
            ended.2.asked =
                asked ++
                  [.revision path revision, .comparison baseline document.bytes] ++ later ∧
              ∀ question ∈ later, ∃ content request, question = .formatting content request) ∧
          (baseline = document.bytes ↔ canonicalize host = canonicalize earlier) ∧
          (canonicalize host = canonicalize earlier → helpers.FindAlike →
            ended =
              (.ok .unchanged,
                ⟨document,
                  asked ++
                    [.revision path revision, .comparison baseline document.bytes]⟩)) := by
  intro document
  refine ⟨canonicalizeBytes_encode host, canonicalize_eq_ite host, ?_⟩
  intro helpers earlier asked path revision cursor style given baseline ended
  have alike : baseline = document.bytes ↔ canonicalize host = canonicalize earlier := by
    have canonical : baseline = Utf8.encode (canonicalize earlier) :=
      canonicalizeBytes_encode earlier
    rw [canonical]
    exact Utf8.encode_inj.trans eq_comm
  refine ⟨?_, alike, ?_⟩
  · obtain ⟨result, left, ends⟩ :=
      exists_ends helpers ⟨document, asked⟩ cursor style (.changedLines (some path) revision)
    have execution : ended = (result, left) := ends.execution
    rw [execution]
    exact ends.exists_asked_eq given
  · intro same findAlike
    have equal := alike.mpr same
    have execution : ended = _ := (Ends.unchanged_of_alike given equal findAlike).execution
    rw [execution, equal]
    simp [Desk.ask]

/-- Two texts that break their lines differently, with a CR that is part of no break and one that
comes last. -/
theorem canonically_alike_is_unchanged_mixed :
    let document := Document.ofHostText ['é', '\r', '\n', '\r', '\r', '\n', '€', '\n', '\r']
    let earlier := ['é', '\n', '\r', '\r', '\n', '€', '\r', '\n', '\r']
    let helpers : Helpers :=
      ⟨fun _ => .ok (Utf8.encode earlier),
        fun asked =>
          match asked.getLast? with
          | some (.comparison first second) => .ok (if first = second then [] else [⟨1, 5⟩])
          | _ => .error (.precondition .backingFile),
        fun _ => .ok ⟨[⟨0, 1, none⟩], none, false⟩⟩
    let ended :=
      (Operation.carryOut (.changedLines (some ['a', '.', 'c']) ['H', 'E', 'A', 'D']) helpers 3
        ⟨none, none, none⟩).on ⟨document, []⟩
    helpers.FindAlike ∧
      ended =
        (.ok .unchanged,
          ⟨document,
            [.revision ['a', '.', 'c'] ['H', 'E', 'A', 'D'],
              .comparison document.bytes document.bytes]⟩) := by
  intro document earlier helpers ended
  have findAlike : helpers.FindAlike := by
    intro asked content
    simp [helpers]
  have sameText :
      canonicalize ['é', '\r', '\n', '\r', '\r', '\n', '€', '\n', '\r'] = canonicalize earlier := by
    decide
  obtain ⟨-, -, compared⟩ :=
    canonically_alike_is_unchanged ['é', '\r', '\n', '\r', '\r', '\n', '€', '\n', '\r']
  obtain ⟨-, alike, unchanged⟩ :=
    compared helpers earlier [] ['a', '.', 'c'] ['H', 'E', 'A', 'D'] 3 ⟨none, none, none⟩ rfl
  have left := unchanged sameText findAlike
  rw [alike.mpr sameText] at left
  exact ⟨findAlike, left⟩

end Reformat
