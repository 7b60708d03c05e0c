import Reformat.Format.Operation
import Reformat.Proofs.InPlace

/-!
Formatting the document at hand, and who is asked what for it. Main statement: whatever the helpers
answer, an operation asks the questions that it is meant to ask, in order and none of them twice,
and it either leaves the document as it was or leaves what applying the batch of the formatter makes
of it.
-/

namespace Reformat

/-! ## Work at a desk -/

/-- What those who help with formatting are asked. -/
inductive Question where
  | revision (path : Path) (revision : Text)
  | comparison (baseline current : Bytes)
  | formatting (content : Bytes) (request : Request)
deriving DecidableEq, Repr

/-- The document at hand, and what has been asked about it so far. -/
structure Desk where
  document : Document
  asked : List Question
deriving DecidableEq, Repr

def Desk.ask (desk : Desk) (question : Question) : Desk :=
  { desk with asked := desk.asked ++ [question] }

def Desk.put (desk : Desk) (document : Document) : Desk :=
  { desk with document := document }

/-- Those who help with formatting. They may answer anything or fail, and need not answer one
question alike when it is asked again. -/
structure Helpers where
  content : List Question → Except Failure Bytes
  changes : List Question → Except Failure (List LineRange)
  batch : List Question → Except Failure Batch

/-- Work at a desk, which stays as the work has left it also where it fails. -/
abbrev Work := ExceptT Failure (StateM Desk)

namespace Work

variable {α β : Type}

/-- What the work gives, and what it leaves behind. -/
def on (work : Work α) (desk : Desk) : Except Failure α × Desk :=
  StateT.run (m := Id) (ExceptT.run work) desk

def ask (question : Question) (answer : List Question → Except Failure α) : Work α := do
  modify fun desk => desk.ask question
  liftM (answer (← get).asked)

theorem on_bind_of_ok {work : Work α} {desk left : Desk} {value : α}
    (done : work.on desk = (.ok value, left)) (next : α → Work β) :
    (work >>= next).on desk = (next value).on left := by
  unfold on at done ⊢
  change StateT.run (m := Id) (ExceptT.run work >>= ExceptT.bindCont next) desk = _
  rw [StateT.run_bind, done]
  rfl

theorem on_bind_of_error {work : Work α} {desk left : Desk} {cause : Failure}
    (failed : work.on desk = (.error cause, left)) (next : α → Work β) :
    (work >>= next).on desk = (.error cause, left) := by
  unfold on at failed ⊢
  change StateT.run (m := Id) (ExceptT.run work >>= ExceptT.bindCont next) desk = _
  rw [StateT.run_bind, failed]
  rfl

theorem on_ask (question : Question) (answer : List Question → Except Failure α) (desk : Desk) :
    (ask question answer).on desk = (answer (desk.ask question).asked, desk.ask question) := rfl

/-- Work that makes a new document, which takes the place of the one on the desk in the end. -/
def placing (work : Work (α × Document)) : Work α := do
  let (value, edited) ← work
  modify fun desk => desk.put edited
  return value

theorem placing_bind (work : Work α) (next : α → Work (β × Document)) :
    (work >>= next).placing = work >>= fun value => (next value).placing :=
  bind_assoc _ _ _

end Work

namespace Helpers

def archive (helpers : Helpers) : Archive (StateM Desk) :=
  fun path revision => Work.ask (.revision path revision) helpers.content

def comparer (helpers : Helpers) : Comparer (StateM Desk) :=
  fun baseline current => Work.ask (.comparison baseline current) helpers.changes

def formatter (helpers : Helpers) : Formatter (StateM Desk) :=
  fun content request => Work.ask (.formatting content request) helpers.batch

end Helpers

/-! ## The operations -/

inductive Operation where
  | buffer
  | region (start stop : Nat)
  | changedLines (path : Option Path) (revision : Text)
deriving DecidableEq, Repr

namespace Operation

def run (helpers : Helpers) (cursor : Nat) (style : Style) (document : Document) :
    Operation → Work (Outcome × Document)
  | buffer => document.formatBuffer helpers.formatter cursor style
  | region start stop => document.formatRegion helpers.formatter start stop cursor style
  | changedLines path revision =>
      document.formatChangedLines helpers.formatter helpers.comparer helpers.archive path revision
        cursor style

/-- An operation on the document at hand, which the new one replaces when all else has been done. -/
def carryOut (operation : Operation) (helpers : Helpers) (cursor : Nat) (style : Style) :
    Work Outcome := do
  let desk ← get
  (operation.run helpers cursor style desk.document).placing

end Operation

/-! ## How they end -/

section

variable (helpers : Helpers) (desk : Desk) (cursor : Nat) (style : Style)

/-- The cursor as the helpers count it; one past the end is at the end. -/
def Desk.offset : Nat :=
  desk.document.byteOfChar (min cursor desk.document.length)

/-- The question to the formatter. -/
def Desk.formatting (restriction : Restriction) : Question :=
  .formatting desk.document.bytes ⟨style, restriction, desk.offset cursor⟩

/-- What follows when the formatter has been asked last. -/
inductive Concludes (offset : Nat) : Except Failure Outcome → Desk → Prop where
  | failed {cause : Failure}
      (failed : helpers.batch desk.asked = .error cause) :
      Concludes offset (.error cause) desk
  | refused {batch : Batch} {cause : Misfit} {reached : Document}
      (answered : helpers.batch desk.asked = .ok batch)
      (refused : (Document.applyHere offset batch).on desk.document = (.error cause, reached)) :
      Concludes offset (.error (.misfit cause)) (desk.put reached)
  | applied {batch : Batch} {applied : Applied} {reached : Document}
      (answered : helpers.batch desk.asked = .ok batch)
      (accepted : (Document.applyHere offset batch).on desk.document = (.ok applied, reached)) :
      Concludes offset (.ok (.formatted applied)) (desk.put reached)

/-- The archive has given the file at the revision, and its lines are being compared. -/
inductive Compares (path : Path) (revision : Text) : Desk → Prop where
  | asked {baseline : Bytes}
      (given : helpers.content (desk.ask (.revision path revision)).asked = .ok baseline) :
      Compares path revision
        ((desk.ask (.revision path revision)).ask
          (.comparison (canonicalizeBytes baseline) desk.document.bytes))

/-- How an operation ends, and the desk that it leaves. No question is asked before the one in front
of it has been answered, and about changed lines the formatter is asked only where there are any. -/
inductive Ends : Operation → Except Failure Outcome → Desk → Prop where
  | buffer {result : Except Failure Outcome} {left : Desk}
      (ends : Concludes helpers
        (desk.ask (desk.formatting cursor style (.bytes 0 desk.document.size)))
        (desk.offset cursor) result left) :
      Ends .buffer result left
  | region {start stop : Nat} {result : Except Failure Outcome} {left : Desk}
      (ends : Concludes helpers
        (desk.ask (desk.formatting cursor style (desk.document.region start stop)))
        (desk.offset cursor) result left) :
      Ends (.region start stop) result left
  | noFile {revision : Text} :
      Ends (.changedLines none revision) (.error (.precondition .backingFile)) desk
  | unread {path : Path} {revision : Text} {cause : Failure}
      (failed : helpers.content (desk.ask (.revision path revision)).asked = .error cause) :
      Ends (.changedLines (some path) revision) (.error cause) (desk.ask (.revision path revision))
  | uncompared {path : Path} {revision : Text} {compared : Desk} {cause : Failure}
      (compares : Compares helpers desk path revision compared)
      (failed : helpers.changes compared.asked = .error cause) :
      Ends (.changedLines (some path) revision) (.error cause) compared
  | unchanged {path : Path} {revision : Text} {compared : Desk}
      (compares : Compares helpers desk path revision compared)
      (same : helpers.changes compared.asked = .ok []) :
      Ends (.changedLines (some path) revision) (.ok .unchanged) compared
  | changed {path : Path} {revision : Text} {compared : Desk} {ranges : List LineRange}
      {result : Except Failure Outcome} {left : Desk}
      (compares : Compares helpers desk path revision compared)
      (found : helpers.changes compared.asked = .ok ranges)
      (changes : ranges ≠ [])
      (ends : Concludes helpers
        (compared.ask
          (desk.formatting cursor
            { style with assumeFilename := style.assumeFilename.getD path } (.lines ranges)))
        (desk.offset cursor) result left) :
      Ends (.changedLines (some path) revision) result left

end

/-! ## Applying the batch -/

namespace Document

variable {document reached : Document} {cursor : Nat} {batch : Batch}

theorem on_applyHere_eq_ok_iff {applied : Applied} :
    (applyHere cursor batch).on document = (.ok applied, reached) ↔
      document.apply cursor batch = .ok (applied, reached) := by
  rw [on_applyHere]
  cases document.apply cursor batch with
  | error cause => simp
  | ok success => simp [Prod.ext_iff]

theorem on_applyHere_eq_error_iff {cause : Misfit} :
    (applyHere cursor batch).on document = (.error cause, reached) ↔
      document.apply cursor batch = .error cause ∧ reached = document := by
  rw [on_applyHere]
  cases document.apply cursor batch with
  | error other => simp [eq_comm]
  | ok success => simp

end Document

/-! ## Each operation -/

section

variable {helpers : Helpers} {desk left : Desk} {cursor : Nat} {style : Style}
  {result : Except Failure Outcome}

theorem Desk.offset_eq (desk : Desk) (cursor : Nat) :
    desk.offset cursor = desk.document.byteOfChar cursor := by
  unfold Desk.offset Document.byteOfChar Document.length
  rw [← List.take_eq_take_min]

theorem exists_concludes (helpers : Helpers) (desk : Desk) (offset : Nat) :
    ∃ result left, Concludes helpers desk offset result left := by
  cases answer : helpers.batch desk.asked with
  | error cause => exact ⟨_, _, .failed answer⟩
  | ok batch =>
      cases outcome : (Document.applyHere offset batch).on desk.document with
      | mk verdict reached =>
          cases verdict with
          | error cause => exact ⟨_, _, .refused answer outcome⟩
          | ok applied => exact ⟨_, _, .applied answer outcome⟩

theorem Concludes.asked_eq {offset : Nat}
    (concludes : Concludes helpers desk offset result left) :
    left.asked = desk.asked := by
  cases concludes with
  | failed failed => rfl
  | refused answered refused => rfl
  | applied answered accepted => rfl

theorem Concludes.execution {restriction : Restriction}
    (concludes : Concludes helpers (desk.ask (desk.formatting cursor style restriction))
      (desk.offset cursor) result left) :
    Work.on
        (Work.placing (desk.document.format helpers.formatter cursor style restriction)) desk =
      (result, left) := by
  have asked := Work.on_ask (desk.formatting cursor style restriction) helpers.batch desk
  rw [Desk.offset_eq] at concludes
  unfold Desk.formatting at asked concludes
  rw [Desk.offset_eq] at asked concludes
  unfold Document.format
  rw [Work.placing_bind]
  cases concludes with
  | failed failed =>
      rw [failed] at asked
      exact Work.on_bind_of_error asked _
  | refused answered refused =>
      obtain ⟨rejected, rfl⟩ := Document.on_applyHere_eq_error_iff.mp refused
      rw [answered] at asked
      apply (Work.on_bind_of_ok asked _).trans
      change desk.document.apply (desk.document.byteOfChar cursor) _ = _ at rejected
      simp only [rejected]
      rfl
  | applied answered accepted =>
      have taken := Document.on_applyHere_eq_ok_iff.mp accepted
      rw [answered] at asked
      apply (Work.on_bind_of_ok asked _).trans
      change desk.document.apply (desk.document.byteOfChar cursor) _ = _ at taken
      simp only [taken]
      rfl

/-- Once the archive has answered, all depends on the answer to the comparison. -/
theorem Compares.on_placing {path : Path} {revision : Text} {compared : Desk}
    (compares : Compares helpers desk path revision compared)
    (next : List LineRange → Work (Outcome × Document)) :
    (Work.placing do
        let baseline ← helpers.archive path revision
        let ranges ← helpers.comparer (canonicalizeBytes baseline) desk.document.bytes
        next ranges).on desk =
      match helpers.changes compared.asked with
      | .ok ranges => (Work.placing (next ranges)).on compared
      | .error cause => (.error cause, compared) := by
  cases compares with
  | @asked baseline given =>
      let first := desk.ask (.revision path revision)
      let comparison := Question.comparison (canonicalizeBytes baseline) desk.document.bytes
      have read := Work.on_ask (.revision path revision) helpers.content desk
      have compared := Work.on_ask comparison helpers.changes first
      rw [given] at read
      rw [Work.placing_bind]
      apply (Work.on_bind_of_ok read _).trans
      rw [Work.placing_bind]
      cases answer : helpers.changes (first.ask comparison).asked with
      | error cause =>
          rw [answer] at compared
          exact Work.on_bind_of_error compared _
      | ok ranges =>
          rw [answer] at compared
          exact Work.on_bind_of_ok compared _

theorem Compares.document_eq {path : Path} {revision : Text} {compared : Desk}
    (compares : Compares helpers desk path revision compared) :
    compared.document = desk.document := by
  cases compares with
  | asked given => rfl

theorem Style.withDefaultFilename_eq (style : Style) (path : Path) :
    style.withDefaultFilename path =
      { style with assumeFilename := style.assumeFilename.getD path } := by
  unfold Style.withDefaultFilename
  cases style.assumeFilename with
  | none => rfl
  | some filename => rfl

theorem on_carryOut (operation : Operation) (helpers : Helpers) (cursor : Nat) (style : Style)
    (desk : Desk) :
    (operation.carryOut helpers cursor style).on desk =
      (Work.placing (operation.run helpers cursor style desk.document)).on desk := rfl

theorem Ends.execution {operation : Operation}
    (ends : Ends helpers desk cursor style operation result left) :
    (operation.carryOut helpers cursor style).on desk = (result, left) := by
  rw [on_carryOut]
  cases ends with
  | buffer ends => exact ends.execution
  | region ends => exact ends.execution
  | noFile => rfl
  | @unread path revision cause failed =>
      have asked := Work.on_ask (.revision path revision) helpers.content desk
      rw [failed] at asked
      unfold Operation.run Document.formatChangedLines
      rw [Work.placing_bind]
      exact Work.on_bind_of_error asked _
  | uncompared compares failed =>
      apply (compares.on_placing _).trans
      rw [failed]
  | unchanged compares same =>
      apply (compares.on_placing _).trans
      rw [same]
      change (_, left.put desk.document) = _
      rw [← compares.document_eq]
      rfl
  | @changed path revision compared ranges _ _ compares found changes ends =>
      have restricted : Restriction.ofChangedLines? ranges = some (.lines ranges) := by
        simp [Restriction.ofChangedLines?, changes]
      apply (compares.on_placing _).trans
      simp only [found, restricted, Style.withDefaultFilename_eq]
      cases compares with
      | asked given => exact Concludes.execution ends

theorem exists_ends (helpers : Helpers) (desk : Desk) (cursor : Nat) (style : Style)
    (operation : Operation) :
    ∃ result left, Ends helpers desk cursor style operation result left := by
  cases operation with
  | buffer =>
      obtain ⟨_, _, concludes⟩ := exists_concludes helpers
        (desk.ask (desk.formatting cursor style (.bytes 0 desk.document.size)))
        (desk.offset cursor)
      exact ⟨_, _, .buffer concludes⟩
  | region start stop =>
      obtain ⟨_, _, concludes⟩ := exists_concludes helpers
        (desk.ask (desk.formatting cursor style (desk.document.region start stop)))
        (desk.offset cursor)
      exact ⟨_, _, .region concludes⟩
  | changedLines path revision =>
      cases path with
      | none => exact ⟨_, _, .noFile⟩
      | some path =>
          cases archived : helpers.content (desk.ask (.revision path revision)).asked with
          | error cause => exact ⟨_, _, .unread archived⟩
          | ok baseline =>
              have compares := Compares.asked archived
              cases compared : helpers.changes ((desk.ask (.revision path revision)).ask
                  (.comparison (canonicalizeBytes baseline) desk.document.bytes)).asked with
              | error cause => exact ⟨_, _, .uncompared compares compared⟩
              | ok ranges =>
                  by_cases same : ranges = []
                  · rw [same] at compared
                    exact ⟨_, _, .unchanged compares compared⟩
                  · obtain ⟨_, _, concludes⟩ := exists_concludes helpers _ (desk.offset cursor)
                    exact ⟨_, _, .changed compares compared same concludes⟩

/-! ## All or nothing -/

/-- Without a batch that can be applied, the document stays as it was before. -/
def Settled (helpers : Helpers) (offset : Nat) (before : Document) (left : Desk) :
    Except Failure Outcome → Prop
  | .error _ => left.document = before
  | .ok .unchanged => left.document = before
  | .ok (.formatted applied) =>
      ∃ batch, helpers.batch left.asked = .ok batch ∧
        before.apply offset batch = .ok (applied, left.document)

theorem Concludes.settled {offset : Nat} (concludes : Concludes helpers desk offset result left) :
    Settled helpers offset desk.document left result := by
  cases concludes with
  | failed failed => rfl
  | refused answered refused => exact (Document.on_applyHere_eq_error_iff.mp refused).2
  | applied answered accepted =>
      exact ⟨_, answered, Document.on_applyHere_eq_ok_iff.mp accepted⟩

theorem Ends.settled {operation : Operation}
    (ends : Ends helpers desk cursor style operation result left) :
    Settled helpers (desk.offset cursor) desk.document left result := by
  cases ends with
  | buffer ends => exact ends.settled
  | region ends => exact ends.settled
  | noFile => rfl
  | unread failed => rfl
  | uncompared compares failed => exact compares.document_eq
  | unchanged compares same => exact compares.document_eq
  | changed compares found changes ends =>
      rw [← compares.document_eq]
      exact ends.settled

end

/-- An operation asks what it is to ask, in order and nothing else, and ends as the answers have it.
What it leaves is the document as it was, or the document with all of the formatter's batch. -/
theorem carryOut_is_all_or_nothing
    (operation : Operation) (helpers : Helpers) (cursor : Nat) (style : Style) (desk : Desk) :
    let ended := (operation.carryOut helpers cursor style).on desk
    (∀ result left,
        ended = (result, left) ↔ Ends helpers desk cursor style operation result left) ∧
      Settled helpers (desk.offset cursor) desk.document ended.2 ended.1 := by
  intro ended
  obtain ⟨result, left, ends⟩ := exists_ends helpers desk cursor style operation
  have execution : ended = (result, left) := ends.execution
  refine ⟨?_, ?_⟩
  · intro other reached
    constructor
    · intro same
      obtain ⟨rfl, rfl⟩ := Prod.mk.inj (execution.symm.trans same)
      exact ends
    · exact Ends.execution
  · rw [execution]
    exact ends.settled

/-- A batch whose edits fit and whose cursor parts a character; and one that fits when the formatter
alone is asked. -/
theorem carryOut_is_all_or_nothing_parted_cursor :
    let desk : Desk := ⟨Document.ofHostText [' ', '€'], []⟩
    let edits : List Edit := [⟨0, 1, none⟩]
    let helpers : Helpers :=
      ⟨fun _ => .ok (Utf8.encode ['x', '\r', '\n']), fun _ => .ok [⟨1, 1⟩],
        fun asked => .ok ⟨edits, if asked.length = 1 then some 3 else some 2, false⟩⟩
    let style : Style := ⟨none, none, none⟩
    let changed : Operation := .changedLines (some "a.c".toList) "HEAD".toList
    let consulted : List Question :=
      [.revision "a.c".toList "HEAD".toList,
        .comparison (Utf8.encode ['x', '\n']) (Utf8.encode [' ', '€']),
        .formatting (Utf8.encode [' ', '€'])
          ⟨⟨none, none, some "a.c".toList⟩, .lines [⟨1, 1⟩], 4⟩]
    let alone : List Question :=
      [.formatting (Utf8.encode [' ', '€']) ⟨style, .bytes 0 4, 4⟩]
    (changed.carryOut helpers 9 style).on desk =
        (.error (.misfit (.misaligned 2)), ⟨desk.document, consulted⟩) ∧
      (Operation.buffer.carryOut helpers 9 style).on desk =
        (.ok (.formatted ⟨1, 1, false⟩), ⟨⟨['€'], .lf, [], true⟩, alone⟩) := by
  intro desk edits helpers style changed consulted alone
  constructor
  · have refused : (Document.applyHere 4 ⟨edits, some 2, false⟩).on desk.document =
        (.error (.misaligned 2), desk.document) := by
      decide +kernel
    have ends : Ends helpers desk 9 style changed (.error (.misfit (.misaligned 2)))
        ⟨desk.document, consulted⟩ :=
      .changed (.asked rfl) rfl (by decide) (.refused rfl refused)
    exact ((carryOut_is_all_or_nothing changed helpers 9 style desk).1 _ _).mpr ends
  · have accepted : (Document.applyHere 4 ⟨edits, some 3, false⟩).on desk.document =
        (.ok ⟨1, 1, false⟩, ⟨['€'], .lf, [], true⟩) := by
      decide +kernel
    have ends : Ends helpers desk 9 style .buffer (.ok (.formatted ⟨1, 1, false⟩))
        ⟨⟨['€'], .lf, [], true⟩, alone⟩ :=
      .buffer (.applied rfl accepted)
    exact ((carryOut_is_all_or_nothing .buffer helpers 9 style desk).1 _ _).mpr ends

end Reformat
