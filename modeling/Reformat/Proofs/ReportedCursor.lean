import Reformat.Proofs.Consultation
import Reformat.Proofs.Coordinates
import Reformat.Proofs.Delivery
import Reformat.Proofs.Translation

/-!
The cursor that is reported with a formatted document. Main statement: it is a position of the
document unless nothing was formatted and it lay past the end before, and the line and the column
that are shown beside it are those of one position alone.
-/

namespace Reformat

/-- The cursor of an outcome, if it has one of its own, is a position of the document. -/
def Outcome.Lands (outcome : Outcome) (document : Document) : Prop :=
  ∀ applied, outcome = .formatted applied → applied.cursor ≤ document.length

/-- What holds of the cursor that is reported where there was another one before. -/
structure Outcome.Reports (outcome : Outcome) (previous : Nat) (document : Document) : Prop where
  within : outcome.cursorOr previous ≤ document.length ↔
    (outcome = .unchanged → previous ≤ document.length)
  place : ∀ index ≤ document.length,
    document.lineColumn index = document.lineColumn (outcome.cursorOr previous) ↔
      index = min (outcome.cursorOr previous) document.length

theorem Outcome.Lands.reports {outcome : Outcome} {document : Document}
    (lands : outcome.Lands document) (previous : Nat) : outcome.Reports previous document where
  within := by
    cases outcome with
    | unchanged => exact ⟨fun within _ => within, fun within => within rfl⟩
    | formatted applied =>
        have within := lands applied rfl
        exact ⟨fun _ => nofun, fun _ => within⟩
  place _ inside := Text.position_eq_position_iff inside _

/-! ## Operations -/

namespace Document

theorem cursor_le_length {document edited : Document} {cursor : Nat} {batch : Batch}
    {applied : Applied} (accepted : document.apply cursor batch = .ok (applied, edited)) :
    applied.cursor ≤ edited.length := by
  rcases apply_eq_ok_iff.mp accepted with ⟨-, -, settled, -⟩
  unfold cursorAfter at settled
  cases placed : batch.cursor with
  | none =>
      rw [placed] at settled
      rw [← Except.ok.inj settled]
      exact charsWithin_le_length edited.chars _
  | some offset =>
      rw [placed] at settled
      exact (charAtByte_eq_ok_iff_byteOfChar.mp settled).1

theorem lands_unchanged (document : Document) : Outcome.unchanged.Lands document :=
  nofun

theorem lands_of_apply {document edited : Document} {cursor : Nat} {batch : Batch}
    {applied : Applied} (accepted : document.apply cursor batch = .ok (applied, edited)) :
    (Outcome.formatted applied).Lands edited := by
  rintro _ ⟨⟩
  exact cursor_le_length accepted

variable {world state : Type}

/-- The cursor of what an operation gives lands in the document that it gives. -/
def Lands (operation : Program world state Failure (Outcome × Document)) : Prop :=
  Program.Ensures (fun _ => True) operation
    (fun result _ => result.1.Lands result.2) (fun _ _ => True)

theorem format_lands (formatter : Formatter (StateT state (StateM world))) (document : Document)
    (cursor : Nat) (style : Style) (restriction : Restriction) :
    Lands (document.format formatter cursor style restriction) := by
  refine Program.Ensures.bind .anything fun batch => ?_
  cases accepted : document.apply (document.byteOfChar cursor) batch with
  | error cause => exact .throw fun _ _ => trivial
  | ok success =>
      rcases success with ⟨applied, edited⟩
      exact .pure fun _ _ => lands_of_apply accepted

theorem formatChangedLines_lands (formatter : Formatter (StateT state (StateM world)))
    (compare : Comparer (StateT state (StateM world)))
    (archive : Archive (StateT state (StateM world))) (document : Document) (path : Option Path)
    (revision : Text) (cursor : Nat) (style : Style) :
    Lands
      (document.formatChangedLines formatter compare archive path revision cursor style) := by
  cases path with
  | none => exact .throw fun _ _ => trivial
  | some path =>
      refine Program.Ensures.bind .anything fun baseline => .bind .anything fun ranges => ?_
      cases Restriction.ofChangedLines? ranges with
      | none => exact .pure fun _ _ => lands_unchanged document
      | some restriction => exact format_lands _ _ _ _ _

end Document

theorem Settled.lands {helpers : Helpers} {offset : Nat} {before : Document} {left : Desk}
    {outcome : Outcome} (settled : Settled helpers offset before left (.ok outcome)) :
    outcome.Lands left.document := by
  cases outcome with
  | unchanged => exact Document.lands_unchanged left.document
  | formatted applied =>
      rcases settled with ⟨batch, -, accepted⟩
      exact Document.lands_of_apply accepted

/-! ## Runs of the command line -/

namespace CommandLine

variable {world : Type} {launch : Launcher (StateT Tree (StateM world))}
  {environment : Environment} {options : Options} {file : Path}

theorem Action.operation_lands (launch : Launcher (StateT Tree (StateM world))) (flags : Flags)
    (options : Options) (file : Path) (document : Document) :
    Document.Lands (operation launch flags options file document) := by
  unfold operation
  split
  · exact Document.formatChangedLines_lands _ _ _ _ _ _ _ _
  · split
    · exact Document.format_lands _ _ _ _ _
    · exact Document.format_lands _ _ _ _ _

theorem Action.perform_lands (flags : Flags) (document : Document) :
    Program.Ensures (fun _ => True)
      (perform launch flags options file document : Action (StateM world) (Outcome × Document))
      (fun result _ => result.1.Lands result.2) (fun _ _ => True) := by
  intro session present _
  have ends := operation_lands launch flags options file document session.tree present trivial
  rw [perform_on]
  revert ends
  generalize Program.on (operation launch flags options file document) session.tree present =
    outcome
  rcases outcome with ⟨⟨cause | result, tree⟩, later⟩
  · exact id
  · exact id

theorem prepare_lands (given : Flags) :
    Program.Ensures (fun _ => True) (prepare launch environment options given file)
      (fun result _ => result.1.Lands result.2) (fun _ _ => True) := by
  refine .bind .anything fun flags => .bind .anything fun document =>
    .bind (Action.perform_lands flags document) fun result => ?_
  exact .bind (Action.announce_ensures flags result.1 fun _ _ lands => lands) fun _ =>
    .pure fun _ lands => lands

/-- The line that tells where the cursor is. -/
def cursorLine (cursor : Nat) (place : Text.Position) : Text :=
  "cursor ".toList ++ Text.Decimal.write cursor ++
    " (line ".toList ++ Text.Decimal.write (place.line + 1) ++
    ", column ".toList ++ Text.Decimal.write (place.column + 1) ++ [')']

/-- The last that is printed is where the cursor is. -/
def Shows (cursor : Nat) (document : Document) (session : Session) : Prop :=
  ∃ earlier, session.messages =
    earlier ++ cursorLine cursor (document.lineColumn cursor) ++ ['\n']

theorem finish_shows (shown : options.printCursor = true) (outcome : Outcome)
    (document : Document) :
    Program.Ensures (fun _ => True)
      (finish options file outcome document : Action (StateM world) Unit)
      (fun _ => Shows (outcome.cursorOr (options.cursor.getD 0)) document) (fun _ _ => True) := by
  refine .bind .anything fun _ => ?_
  unfold Action.showCursor
  rw [shown]
  exact .modify fun session _ => ⟨session.messages, rfl⟩

/-- A run that succeeds has come to an outcome and a document, and what it shows is of these. -/
theorem exists_shows_of_report {tree : Tree} {present : world} {arguments : List Text}
    (accepted : parse arguments = .ok (options, file)) (shown : options.printCursor = true)
    (succeeds : (report launch environment tree present arguments).code = 0) :
    ∃ outcome document session later,
      Program.on (prepare launch environment options (Flags.ofTokens arguments) file)
          ⟨tree, [], []⟩ present =
        ((.ok (outcome, document), session), later) ∧
      Shows (outcome.cursorOr (options.cursor.getD 0)) document
        (report launch environment tree present arguments).session := by
  cases prepared : Program.on
      (prepare launch environment options (Flags.ofTokens arguments) file) ⟨tree, [], []⟩ present
    with
  | mk ended later =>
      rcases ended with ⟨complaint | ⟨outcome, document⟩, session⟩
      · rw [report_of_error accepted prepared] at succeeds
        cases succeeds
      · refine ⟨outcome, document, session, later, rfl, ?_⟩
        rw [report_eq accepted, runFile_eq, Program.on_bind_of_ok prepared] at succeeds ⊢
        cases finished : Program.on (finish options file outcome document) session later with
        | mk left last =>
            rcases left with ⟨complaint | _, left⟩
            · rw [finished] at succeeds
              cases succeeds
            · exact (finish_shows shown outcome document).of_ok trivial finished

/-- The cursor after an operation is a position of the document that it leaves, unless nothing was
formatted and the cursor before it was none. The line and the column of it are those of the one
position to which it is clamped. A run of the command line that succeeds shows no other cursor. -/
theorem reported_cursor_lands_iff (operation : Operation) (helpers : Helpers) (cursor : Nat)
    (style : Style) (desk : Desk) {world : Type} (launch : Launcher (StateT Tree (StateM world)))
    (environment : Environment) (tree : Tree) (present : world) (arguments : List Text) :
    (∀ outcome left, (operation.carryOut helpers cursor style).on desk = (.ok outcome, left) →
      outcome.Reports cursor left.document) ∧
    ∀ options file, parse arguments = .ok (options, file) → options.printCursor = true →
      (report launch environment tree present arguments).code = 0 →
        ∃ outcome document session later,
          Program.on (prepare launch environment options (Flags.ofTokens arguments) file)
              ⟨tree, [], []⟩ present =
            ((.ok (outcome, document), session), later) ∧
          outcome.Reports (options.cursor.getD 0) document ∧
          Shows (outcome.cursorOr (options.cursor.getD 0)) document
            (report launch environment tree present arguments).session := by
  refine ⟨?_, ?_⟩
  · intro outcome left carried
    rcases exists_ends helpers desk cursor style operation with ⟨result, after, ends⟩
    cases carried.symm.trans ends.execution
    exact ends.settled.lands.reports cursor
  · intro options file accepted shown succeeds
    rcases exists_shows_of_report accepted shown succeeds with
      ⟨outcome, document, session, later, prepared, shows⟩
    have lands := (prepare_lands (Flags.ofTokens arguments)).of_ok trivial prepared
    exact ⟨outcome, document, session, later, prepared, lands.reports _, shows⟩

/-- A cursor past the end of a file in which nothing changed, for an operation and for a run. -/
theorem reported_cursor_lands_iff_past_end :
    let helpers : Helpers := ⟨fun _ => .ok [], fun _ => .ok [], fun _ => .ok ⟨[], none, false⟩⟩
    let desk : Desk := ⟨Document.ofHostText ['a', 'b'], []⟩
    let launch : Launcher (StateT Tree (StateM Unit)) := fun _ => pure (.ok ⟨.exited 0, [], []⟩)
    let tree : Tree := ⟨[['w']], [([['w'], "a.c".toList], .file (Utf8.encode ['a', 'b']))]⟩
    let left := report launch ⟨none, none⟩ tree ()
      ["--changed".toList, "--print-cursor".toList, "--cursor=9".toList, "a.c".toList]
    (∃ after, (Operation.carryOut (.changedLines (some "a.c".toList) "HEAD".toList) helpers 9
          ⟨none, none, none⟩).on desk = (.ok .unchanged, after) ∧
        Outcome.unchanged.Reports 9 after.document) ∧
      left.code = 0 ∧
      ∃ (outcome : Outcome) (document : Document), outcome.Reports 9 document ∧
        Shows (outcome.cursorOr 9) document left.session := by
  intro helpers desk launch tree left
  have carried : (Operation.carryOut (.changedLines (some "a.c".toList) "HEAD".toList) helpers 9
      ⟨none, none, none⟩).on desk =
      (.ok .unchanged,
        ⟨desk.document,
          [.revision "a.c".toList "HEAD".toList, .comparison [] desk.document.bytes]⟩) := by
    decide +kernel
  have accepted : parse
      ["--changed".toList, "--print-cursor".toList, "--cursor=9".toList, "a.c".toList] =
      .ok ({ Options.empty with
        changed := true, printCursor := true, cursor := some 9, file := some "a.c".toList },
        "a.c".toList) := by
    decide +kernel
  have succeeds : left.code = 0 := by decide +kernel
  have reported := reported_cursor_lands_iff (.changedLines (some "a.c".toList) "HEAD".toList)
    helpers 9 ⟨none, none, none⟩ desk launch ⟨none, none⟩ tree ()
    ["--changed".toList, "--print-cursor".toList, "--cursor=9".toList, "a.c".toList]
  refine ⟨⟨_, carried, reported.1 _ _ carried⟩, succeeds, ?_⟩
  rcases reported.2 _ _ accepted rfl succeeds with ⟨outcome, document, -, -, -, reports, shows⟩
  exact ⟨outcome, document, reports, shows⟩

/-- Where nothing is formatted, a cursor past the end is reported as it was. -/
theorem unchanged_reports_past_end :
    let helpers : Helpers := ⟨fun _ => .ok (Utf8.encode ['a', 'b']), fun _ => .ok [],
      fun _ => .ok ⟨[], none, false⟩⟩
    let ended := (Operation.carryOut (.changedLines (some "a.c".toList) "HEAD".toList) helpers 9
      ⟨none, none, none⟩).on ⟨Document.ofHostText ['a', 'b'], []⟩
    ended.1 = .ok .unchanged ∧ Outcome.unchanged.cursorOr 9 = 9 ∧ ended.2.document.length = 2 := by
  decide +kernel

end CommandLine

end Reformat
