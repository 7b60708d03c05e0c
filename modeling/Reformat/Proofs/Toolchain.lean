import Reformat.Format.Operation
import Reformat.Proofs.BrokenText
import Reformat.Proofs.Program
import Reformat.Proofs.Ranges
import Reformat.Tool.Git
import Reformat.Tool.GnuDiff

/-!
The tools that are called, one after the other, to format the lines that changed. Main statement:
however each of them ends, none is called after one that fails, the failure says which end it was,
and only a batch that fits changes the document.
-/

namespace Reformat

open Program

/-! ## The end of one tool -/

namespace Completion

variable {tool : Text} {codes : List Int} {completion : Completion}

theorem check_of_exited {code : Int} (exited : completion.termination = .exited code)
    (accepted : code ∈ codes) : completion.check tool codes = .ok completion := by
  have passes : completion.termination.accepted codes = true := by
    rw [exited]
    exact List.elem_eq_true_of_mem accepted
  exact if_pos passes

theorem check_of_not_exited {complaint : Text}
    (refused : ∀ code ∈ codes, completion.termination ≠ .exited code)
    (reads : Utf8.ReadsLossy completion.diagnostics complaint) :
    completion.check tool codes =
      .error (.process tool completion.termination complaint) := by
  have fails : ¬ completion.termination.accepted codes = true := by
    intro passes
    cases ended : completion.termination with
    | exited code =>
        rw [ended] at passes
        exact refused code (List.mem_of_elem_eq_true passes) ended
    | signaled signal =>
        rw [ended] at passes
        cases passes
    | unknown =>
        rw [ended] at passes
        cases passes
  rw [← reads.decodeLossy_eq]
  exact if_neg fails

theorem text_of_encode {output : Text} (encoded : Utf8.encode output = completion.output) :
    completion.text tool = .ok output := by
  unfold text
  rw [Utf8.decode?_eq_some_iff.mpr encoded]

theorem text_of_not_encode (undecoded : ∀ output, Utf8.encode output ≠ completion.output) :
    completion.text tool = .error (.malformed tool .notText) := by
  have unread : Utf8.decode? completion.output = none := by
    rw [Option.eq_none_iff_forall_ne_some]
    intro output read
    exact undecoded output (Utf8.decode?_eq_some_iff.mp read)
  unfold text
  rw [unread]

theorem encode_or_not (completion : Completion) :
    (∃ output, Utf8.encode output = completion.output) ∨
      ∀ output, Utf8.encode output ≠ completion.output := by
  by_cases encoded : ∃ output, Utf8.encode output = completion.output
  · exact Or.inl encoded
  · exact Or.inr (not_exists.mp encoded)

end Completion

namespace GnuDiff

/-- What the end of a comparison says: the ranges that are written in its output, or none where it
found no difference, whatever it printed then. -/
inductive Tells (completion : Completion) : Except Failure (List LineRange) → Prop where
  | ended {complaint : Text}
      (notSame : completion.termination ≠ .exited 0)
      (notDifferent : completion.termination ≠ .exited 1)
      (reads : Utf8.ReadsLossy completion.diagnostics complaint) :
      Tells completion (.error (.process tool completion.termination complaint))
  | same
      (exited : completion.termination = .exited 0) :
      Tells completion (.ok [])
  | undecoded
      (exited : completion.termination = .exited 1)
      (undecoded : ∀ output, Utf8.encode output ≠ completion.output) :
      Tells completion (.error (.malformed tool .notText))
  | misread {output bad : Text} {good rest : List Text} {cause : LineRange.Malformation}
      (exited : completion.termination = .exited 1)
      (encoded : Utf8.encode output = completion.output)
      (spaced : Text.Spaced (good ++ bad :: rest) output)
      (wellFormed : ∀ token ∈ good, ∃ range, LineRange.IsToken token range)
      (flaw : LineRange.Flaw bad cause) :
      Tells completion (.error (.malformed tool (.lineRange cause)))
  | different {output : Text} {tokens : List Text} {ranges : List LineRange}
      (exited : completion.termination = .exited 1)
      (encoded : Utf8.encode output = completion.output)
      (spaced : Text.Spaced tokens output)
      (areTokens : List.Forall₂ LineRange.IsToken tokens ranges) :
      Tells completion (.ok ranges)

variable {completion : Completion} {result : Except Failure (List LineRange)}

theorem Tells.eq (tells : Tells completion result) :
    (completion.check tool [0, 1] >>= changedLines) = result := by
  have different (exited : completion.termination = .exited 1) :
      (completion.check tool [0, 1] >>= changedLines) =
        completion.text tool >>= LineRange.ofOutput tool := by
    rw [Completion.check_of_exited exited (by decide), ok_bind, changedLines, exited]
    rfl
  cases tells with
  | ended notSame notDifferent reads =>
      rw [Completion.check_of_not_exited (by simp [notSame, notDifferent]) reads]
      rfl
  | same exited =>
      rw [Completion.check_of_exited exited (by decide), ok_bind, changedLines, if_pos exited]
      rfl
  | undecoded exited undecoded =>
      rw [different exited, Completion.text_of_not_encode undecoded]
      rfl
  | misread exited encoded spaced wellFormed flaw =>
      rw [different exited, Completion.text_of_encode encoded, ok_bind]
      exact LineRange.ofOutput_eq_error_iff_flaw.mpr ⟨_, _, _, _, spaced, wellFormed, flaw, rfl⟩
  | different exited encoded spaced areTokens =>
      rw [different exited, Completion.text_of_encode encoded, ok_bind]
      exact LineRange.ofOutput_eq_ok_iff_isToken.mpr ⟨_, spaced, areTokens⟩

theorem exists_tells (completion : Completion) : ∃ result, Tells completion result := by
  by_cases same : completion.termination = .exited 0
  · exact ⟨_, .same same⟩
  · by_cases different : completion.termination = .exited 1
    · rcases completion.encode_or_not with ⟨output, encoded⟩ | undecoded
      · cases read : LineRange.ofOutput tool output with
        | error failure =>
            rcases LineRange.ofOutput_eq_error_iff_flaw.mp read with
              ⟨good, bad, rest, cause, spaced, wellFormed, flaw, -⟩
            exact ⟨_, .misread different encoded spaced wellFormed flaw⟩
        | ok ranges =>
            rcases LineRange.ofOutput_eq_ok_iff_isToken.mp read with ⟨tokens, spaced, areTokens⟩
            exact ⟨_, .different different encoded spaced areTokens⟩
      · exact ⟨_, .undecoded different undecoded⟩
    · rcases Utf8.exists_readsLossy completion.diagnostics with ⟨complaint, reads⟩
      exact ⟨_, .ended same different reads⟩

end GnuDiff

namespace ClangFormat

/-- What the end of the formatter says: the batch of which its output is a report. -/
inductive Tells (completion : Completion) : Except Failure Batch → Prop where
  | ended {complaint : Text}
      (failed : completion.termination ≠ .exited 0)
      (reads : Utf8.ReadsLossy completion.diagnostics complaint) :
      Tells completion (.error (.process tool completion.termination complaint))
  | undecoded
      (exited : completion.termination = .exited 0)
      (undecoded : ∀ output, Utf8.encode output ≠ completion.output) :
      Tells completion (.error (.malformed tool .notText))
  | misread {output : Text} {cause : Replacements.Malformation}
      (exited : completion.termination = .exited 0)
      (encoded : Utf8.encode output = completion.output)
      (unread : Replacements.parse output = .error cause) :
      Tells completion (.error (.malformed tool (.replacements cause)))
  | reported {output : Text} {batch : Batch}
      (exited : completion.termination = .exited 0)
      (encoded : Utf8.encode output = completion.output)
      (isReport : Replacements.IsReport output batch) :
      Tells completion (.ok batch)

variable {completion : Completion} {result : Except Failure Batch}

theorem Tells.eq (tells : Tells completion result) :
    (completion.check tool [0] >>= fun ended =>
      ended.text tool >>= Replacements.ofOutput tool) = result := by
  cases tells with
  | ended failed reads =>
      rw [Completion.check_of_not_exited (by simp [failed]) reads]
      rfl
  | undecoded exited undecoded =>
      rw [Completion.check_of_exited exited (by decide), ok_bind,
        Completion.text_of_not_encode undecoded]
      rfl
  | misread exited encoded unread =>
      rw [Completion.check_of_exited exited (by decide), ok_bind,
        Completion.text_of_encode encoded, ok_bind, Replacements.ofOutput, unread]
  | reported exited encoded isReport =>
      rw [Completion.check_of_exited exited (by decide), ok_bind,
        Completion.text_of_encode encoded, ok_bind, Replacements.ofOutput,
        Replacements.parse_eq_ok_iff.mpr isReport]

theorem exists_tells (completion : Completion) : ∃ result, Tells completion result := by
  by_cases exited : completion.termination = .exited 0
  · rcases completion.encode_or_not with ⟨output, encoded⟩ | undecoded
    · cases read : Replacements.parse output with
      | error cause => exact ⟨_, .misread exited encoded read⟩
      | ok batch => exact ⟨_, .reported exited encoded (Replacements.parse_eq_ok_iff.mp read)⟩
    · exact ⟨_, .undecoded exited undecoded⟩
  · rcases Utf8.exists_readsLossy completion.diagnostics with ⟨complaint, reads⟩
    exact ⟨_, .ended exited reads⟩

end ClangFormat

/-! ## Calls -/

/-- How the tools end, whatever they have been called for before. -/
abbrev Tools :=
  List Invocation → Completion

namespace Tools

variable {state : Type}

/-- Starts a tool, whose end may depend on every call up to this one. -/
def launcher (tools : Tools) : Launcher (StateT state (StateM (List Invocation))) :=
  fun invocation => do
    modifyThe (List Invocation) (· ++ [invocation])
    return .ok (tools (← getThe (List Invocation)))

theorem on_run (tools : Tools) (tool : Text) (codes : List Int) (invocation : Invocation)
    (present : state) (calls : List Invocation) :
    Program.on (tools.launcher.run tool codes invocation) present calls =
      (((tools (calls ++ [invocation])).check tool codes, present), calls ++ [invocation]) := by
  exact on_ofExcept _ _ _

/-- A tool is run, and what it ends with is read. -/
theorem on_run_reading {α : Type} (tools : Tools) (tool : Text) (codes : List Int)
    (invocation : Invocation) (reading : Completion → Except Failure α) (present : state)
    (calls : List Invocation) :
    Program.on
        (tools.launcher.run tool codes invocation >>= fun completion =>
          MonadExcept.ofExcept (reading completion)) present calls =
      (((tools (calls ++ [invocation])).check tool codes >>= reading, present),
        calls ++ [invocation]) := by
  have called := tools.on_run tool codes invocation present calls
  cases checked : (tools (calls ++ [invocation])).check tool codes with
  | error failure =>
      rw [checked] at called
      exact on_bind_of_error called _
  | ok completion =>
      rw [checked] at called
      exact (on_bind_of_ok called _).trans (on_ofExcept _ _ _)

end Tools

/-! ## The chain of calls -/

/-- A file whose changed lines are to be formatted, and the tools for it. -/
structure Errand where
  git : Git
  diff : GnuDiff
  format : ClangFormat
  path : Path
  /-- What the file is called in its directory. -/
  name : Text
  named : Path.fileName? path = some name
  revision : Text
  cursor : Nat
  style : Style

namespace Errand

section

variable (errand : Errand) (tools : Tools) (document : Document)

def propose : Program (List Invocation) Document Failure (Outcome × Document) :=
  document.formatChangedLines (errand.format.formatter tools.launcher)
    (errand.diff.comparer tools.launcher) (errand.git.archive tools.launcher) (some errand.path)
    errand.revision errand.cursor errand.style

/-- Formats the document at hand, which the new one replaces when all else has been done. -/
def run : Program (List Invocation) Document Failure Outcome := do
  let (outcome, edited) ← errand.propose tools (← get)
  set edited
  return outcome

def gitCall (arguments : List Text) : Invocation :=
  ⟨errand.git.program, arguments, [], none, Git.directoryOf errand.path⟩

def repository : Invocation :=
  errand.gitCall ["rev-parse".toList, "--show-toplevel".toList]

def tracking : Invocation :=
  errand.gitCall ["ls-files".toList, "--error-unmatch".toList, "--".toList, errand.name]

def content : Invocation :=
  errand.gitCall ["show".toList, errand.revision ++ ":./".toList ++ errand.name]

def comparison (baseline : Bytes) : Invocation :=
  ⟨errand.diff.program, GnuDiff.formatArguments ++ ["--".toList],
    [canonicalizeBytes baseline, document.bytes], none, ['.']⟩

def request (ranges : List LineRange) : Request :=
  ⟨errand.style.withDefaultFilename errand.path, .lines ranges, document.byteOfChar errand.cursor⟩

def formatting (ranges : List LineRange) : Invocation :=
  ⟨errand.format.program, ClangFormat.arguments (errand.request document ranges), [],
    some document.bytes, ['.']⟩

/-- The calls that give the content of the file at the revision. -/
def lookups : List Invocation :=
  [errand.repository, errand.tracking, errand.content]

/-- All calls that are made until the formatter has been called. -/
def planned (ranges : List LineRange) : List Invocation :=
  errand.lookups ++ [errand.comparison document (tools errand.lookups).output] ++
    [errand.formatting document ranges]

/-- What comes of the content of the file at the revision. -/
inductive Fetches : List Invocation → Except Failure Bytes → Prop where
  | outside
      (failed : (tools [errand.repository]).termination ≠ .exited 0) :
      Fetches [errand.repository] (.error (.precondition (.repository errand.path)))
  | untracked
      (inside : (tools [errand.repository]).termination = .exited 0)
      (failed : (tools [errand.repository, errand.tracking]).termination ≠ .exited 0) :
      Fetches [errand.repository, errand.tracking]
        (.error (.precondition (.tracking errand.path)))
  | unshown {complaint : Text}
      (inside : (tools [errand.repository]).termination = .exited 0)
      (tracked : (tools [errand.repository, errand.tracking]).termination = .exited 0)
      (failed : (tools errand.lookups).termination ≠ .exited 0)
      (reads : Utf8.ReadsLossy (tools errand.lookups).diagnostics complaint) :
      Fetches errand.lookups
        (.error (.process Git.tool (tools errand.lookups).termination complaint))
  | shown
      (inside : (tools [errand.repository]).termination = .exited 0)
      (tracked : (tools [errand.repository, errand.tracking]).termination = .exited 0)
      (exited : (tools errand.lookups).termination = .exited 0) :
      Fetches errand.lookups (.ok (tools errand.lookups).output)

/-- The calls up to the comparison with the content that has been fetched, and what it tells. -/
inductive Compares : List Invocation → Except Failure (List LineRange) → Prop where
  | mk {calls : List Invocation} {baseline : Bytes} {told : Except Failure (List LineRange)}
      (fetched : errand.Fetches tools calls (.ok baseline))
      (tells : GnuDiff.Tells (tools (calls ++ [errand.comparison document baseline])) told) :
      Compares (calls ++ [errand.comparison document baseline]) told

/-- The calls up to the formatter, where there are lines to format, and what it tells. -/
inductive Formats : List Invocation → Except Failure Batch → Prop where
  | mk {calls : List Invocation} {ranges : List LineRange} {told : Except Failure Batch}
      (compared : errand.Compares tools document calls (.ok ranges))
      (changed : ranges ≠ [])
      (tells : ClangFormat.Tells (tools (calls ++ [errand.formatting document ranges])) told) :
      Formats (calls ++ [errand.formatting document ranges]) told

/-- The calls that are made, what comes of them, and the document in the end. -/
inductive Ends : List Invocation → Except Failure Outcome → Document → Prop where
  | unfetched {calls : List Invocation} {failure : Failure}
      (fetched : errand.Fetches tools calls (.error failure)) :
      Ends calls (.error failure) document
  | uncompared {calls : List Invocation} {failure : Failure}
      (compared : errand.Compares tools document calls (.error failure)) :
      Ends calls (.error failure) document
  | unchanged {calls : List Invocation}
      (compared : errand.Compares tools document calls (.ok [])) :
      Ends calls (.ok .unchanged) document
  | unformatted {calls : List Invocation} {failure : Failure}
      (formatted : errand.Formats tools document calls (.error failure)) :
      Ends calls (.error failure) document
  | refused {calls : List Invocation} {batch : Batch} {cause : Misfit}
      (formatted : errand.Formats tools document calls (.ok batch))
      (refused : document.apply (document.byteOfChar errand.cursor) batch = .error cause) :
      Ends calls (.error (.misfit cause)) document
  | applied {calls : List Invocation} {batch : Batch} {applied : Applied} {edited : Document}
      (formatted : errand.Formats tools document calls (.ok batch))
      (accepted :
        document.apply (document.byteOfChar errand.cursor) batch = .ok (applied, edited)) :
      Ends calls (.ok (.formatted applied)) edited

end

/-! ## How the chain runs -/

section

variable {errand : Errand} {tools : Tools} {document : Document} {calls : List Invocation}

theorem on_git (arguments : List Text) :
    Program.on (errand.git.run tools.launcher (Git.directoryOf errand.path) arguments)
        document calls =
      (((tools (calls ++ [errand.gitCall arguments])).check Git.tool [0], document),
        calls ++ [errand.gitCall arguments]) :=
  tools.on_run _ _ _ _ _

theorem on_git_of_exited {arguments : List Text} (precondition : Precondition)
    (exited : (tools (calls ++ [errand.gitCall arguments])).termination = .exited 0) :
    Program.on
        (ExceptT.adapt (Git.lacking precondition)
          (errand.git.run tools.launcher (Git.directoryOf errand.path) arguments)) document calls =
      ((.ok (tools (calls ++ [errand.gitCall arguments])), document),
        calls ++ [errand.gitCall arguments]) := by
  rw [on_adapt, on_git, Completion.check_of_exited exited (by decide)]
  rfl

theorem on_git_of_not_exited {arguments : List Text} (precondition : Precondition)
    (failed : (tools (calls ++ [errand.gitCall arguments])).termination ≠ .exited 0) :
    Program.on
        (ExceptT.adapt (Git.lacking precondition)
          (errand.git.run tools.launcher (Git.directoryOf errand.path) arguments)) document calls =
      ((.error (.precondition precondition), document), calls ++ [errand.gitCall arguments]) := by
  rcases Utf8.exists_readsLossy (tools (calls ++ [errand.gitCall arguments])).diagnostics with
    ⟨complaint, reads⟩
  rw [on_adapt, on_git, Completion.check_of_not_exited (by simpa using failed) reads]
  rfl

theorem Fetches.execution {fetched : Except Failure Bytes}
    (fetches : errand.Fetches tools calls fetched) (document : Document) :
    Program.on (errand.git.archive tools.launcher errand.path errand.revision) document [] =
      ((fetched, document), calls) := by
  have shown : Program.on
      (errand.git.run tools.launcher (Git.directoryOf errand.path)
        ["show".toList, errand.revision ++ ":./".toList ++ errand.name]) document
        [errand.repository, errand.tracking] =
      (((tools errand.lookups).check Git.tool [0], document), errand.lookups) :=
    on_git _
  unfold Git.archive
  simp only [errand.named]
  cases fetches with
  | outside failed =>
      exact on_bind_of_error (on_git_of_not_exited _ failed) _
  | untracked inside failed =>
      apply (on_bind_of_ok (on_git_of_exited _ inside) _).trans
      exact on_bind_of_error (on_git_of_not_exited _ failed) _
  | unshown inside tracked failed reads =>
      rw [Completion.check_of_not_exited (by simpa using failed) reads] at shown
      apply (on_bind_of_ok (on_git_of_exited _ inside) _).trans
      apply (on_bind_of_ok (on_git_of_exited _ tracked) _).trans
      exact on_bind_of_error shown _
  | shown inside tracked exited =>
      rw [Completion.check_of_exited exited (by decide)] at shown
      apply (on_bind_of_ok (on_git_of_exited _ inside) _).trans
      apply (on_bind_of_ok (on_git_of_exited _ tracked) _).trans
      exact on_bind_of_ok shown _

/-- The first half of the work, up to what the comparison tells. -/
def compare (errand : Errand) (tools : Tools) (document : Document) :
    Program (List Invocation) Document Failure (List LineRange) := do
  let baseline ← errand.git.archive tools.launcher errand.path errand.revision
  errand.diff.comparer tools.launcher (canonicalizeBytes baseline) document.bytes

/-- The other half: the formatter is asked, unless there is nothing to format. -/
def proposeFor (errand : Errand) (tools : Tools) (document : Document) (ranges : List LineRange) :
    Program (List Invocation) Document Failure (Outcome × Document) :=
  match Restriction.ofChangedLines? ranges with
  | none => return (.unchanged, document)
  | some restriction =>
      document.format (errand.format.formatter tools.launcher) errand.cursor
        (errand.style.withDefaultFilename errand.path) restriction

theorem propose_eq (errand : Errand) (tools : Tools) (document : Document) :
    errand.propose tools document =
      errand.compare tools document >>= errand.proposeFor tools document :=
  (bind_assoc _ _ _).symm

theorem Compares.execution {told : Except Failure (List LineRange)}
    (compares : errand.Compares tools document calls told) :
    (errand.compare tools document).on document [] = ((told, document), calls) := by
  cases compares with
  | mk fetched tells =>
      apply (on_bind_of_ok (fetched.execution document) _).trans
      rw [← tells.eq]
      exact tools.on_run_reading _ _ _ _ _ _

theorem on_formatter {ranges : List LineRange} {told : Except Failure Batch}
    (tells : ClangFormat.Tells (tools (calls ++ [errand.formatting document ranges])) told) :
    Program.on
        (errand.format.formatter tools.launcher document.bytes (errand.request document ranges))
        document calls =
      ((told, document), calls ++ [errand.formatting document ranges]) := by
  have called := tools.on_run_reading ClangFormat.tool [0] (errand.formatting document ranges)
    (fun ended => ended.text ClangFormat.tool >>= Replacements.ofOutput ClangFormat.tool)
    document calls
  rw [tells.eq] at called
  rw [← called]
  unfold ClangFormat.formatter
  congr 2
  funext completion
  cases completion.text ClangFormat.tool with
  | error failure => rfl
  | ok output => rfl

/-- The document with the batch of the formatter applied. -/
def fit (errand : Errand) (document : Document) (batch : Batch) :
    Except Failure (Outcome × Document) :=
  match document.apply (document.byteOfChar errand.cursor) batch with
  | .ok (applied, edited) => .ok (.formatted applied, edited)
  | .error cause => .error (.misfit cause)

theorem Formats.on_propose {told : Except Failure Batch}
    (formats : errand.Formats tools document calls told) :
    (errand.propose tools document).on document [] =
      ((told >>= errand.fit document, document), calls) := by
  rw [propose_eq]
  cases formats with
  | @mk before ranges _ compared changed tells =>
      have restricted : Restriction.ofChangedLines? ranges = some (.lines ranges) := by
        simp [Restriction.ofChangedLines?, changed]
      have called := on_formatter tells
      apply (on_bind_of_ok compared.execution _).trans
      unfold proposeFor
      simp only [restricted]
      cases told with
      | error failure => exact on_bind_of_error called _
      | ok batch =>
          apply (on_bind_of_ok called _).trans
          rw [ok_bind]
          unfold fit
          cases document.apply (document.byteOfChar errand.cursor) batch with
          | error cause => rfl
          | ok success => rfl

theorem on_run_of_error {failure : Failure}
    (failed : (errand.propose tools document).on document [] =
      ((.error failure, document), calls)) :
    (errand.run tools).on document [] = ((.error failure, document), calls) := by
  apply (on_bind_of_ok (on_get document []) _).trans
  exact on_bind_of_error failed _

theorem on_run_of_ok {outcome : Outcome} {edited : Document}
    (proposed : (errand.propose tools document).on document [] =
      ((.ok (outcome, edited), document), calls)) :
    (errand.run tools).on document [] = ((.ok outcome, edited), calls) := by
  apply (on_bind_of_ok (on_get document []) _).trans
  exact on_bind_of_ok proposed _

theorem Ends.execution {result : Except Failure Outcome} {left : Document}
    (ends : errand.Ends tools document calls result left) :
    (errand.run tools).on document [] = ((result, left), calls) := by
  cases ends with
  | unfetched fetched =>
      exact on_run_of_error (on_bind_of_error (fetched.execution document) _)
  | uncompared compared =>
      apply on_run_of_error
      rw [propose_eq]
      exact on_bind_of_error compared.execution _
  | unchanged compared =>
      apply on_run_of_ok
      rw [propose_eq]
      exact on_bind_of_ok compared.execution _
  | unformatted formatted =>
      exact on_run_of_error formatted.on_propose
  | refused formatted refused =>
      apply on_run_of_error
      rw [formatted.on_propose, ok_bind, fit, refused]
  | applied formatted accepted =>
      apply on_run_of_ok
      rw [formatted.on_propose, ok_bind, fit, accepted]

theorem exists_fetches (errand : Errand) (tools : Tools) :
    ∃ calls fetched, errand.Fetches tools calls fetched := by
  by_cases inside : (tools [errand.repository]).termination = .exited 0
  · by_cases tracked :
        (tools [errand.repository, errand.tracking]).termination = .exited 0
    · by_cases exited : (tools errand.lookups).termination = .exited 0
      · exact ⟨_, _, .shown inside tracked exited⟩
      · rcases Utf8.exists_readsLossy (tools errand.lookups).diagnostics with ⟨complaint, reads⟩
        exact ⟨_, _, .unshown inside tracked exited reads⟩
    · exact ⟨_, _, .untracked inside tracked⟩
  · exact ⟨_, _, .outside inside⟩

theorem exists_ends (errand : Errand) (tools : Tools) (document : Document) :
    ∃ calls result left, errand.Ends tools document calls result left := by
  rcases exists_fetches errand tools with ⟨calls, failure | baseline, fetched⟩
  · exact ⟨_, _, _, .unfetched fetched⟩
  · rcases GnuDiff.exists_tells (tools (calls ++ [errand.comparison document baseline])) with
      ⟨failure | ranges, tells⟩
    · exact ⟨_, _, _, .uncompared (.mk fetched tells)⟩
    · have compared := Compares.mk fetched tells
      by_cases changed : ranges = []
      · rw [changed] at compared
        exact ⟨_, _, _, .unchanged compared⟩
      · rcases ClangFormat.exists_tells
            (tools (calls ++ [errand.comparison document baseline] ++
              [errand.formatting document ranges])) with ⟨failure | batch, tells⟩
        · exact ⟨_, _, _, .unformatted (.mk compared changed tells)⟩
        · have formatted := Formats.mk compared changed tells
          cases outcome : document.apply (document.byteOfChar errand.cursor) batch with
          | error cause => exact ⟨_, _, _, .refused formatted outcome⟩
          | ok success => exact ⟨_, _, _, .applied formatted outcome⟩

/-! ## Which calls are made -/

/-- Whether the last of some calls ended in such a way that another one may follow. Up to the
content of the file, it has to be found; behind it, there has to be something to format. -/
structure GoesOn (tools : Tools) (calls : List Invocation) : Prop where
  found : calls.length ≤ 3 → (tools calls).termination = .exited 0
  differs : calls.length = 4 → (tools calls).termination = .exited 1 ∧
    ∃ output tokens, Utf8.encode output = (tools calls).output ∧ Text.Spaced tokens output ∧
      tokens ≠ [] ∧ ∀ token ∈ tokens, ∃ range, LineRange.IsToken token range

/-- Every call but the last one let the next one follow. -/
def Gated (tools : Tools) (calls : List Invocation) : Prop :=
  ∀ earlier, earlier ≠ [] → earlier <+: calls → earlier ≠ calls → GoesOn tools earlier

theorem gated_singleton (tools : Tools) (call : Invocation) : Gated tools [call] := by
  intro earlier nonempty isPrefix proper
  have concat : earlier <+: [] ++ [call] := isPrefix
  rcases List.prefix_concat_iff.mp concat with whole | shorter
  · exact absurd whole proper
  · exact absurd (List.prefix_nil.mp shorter) nonempty

theorem Gated.append (gated : Gated tools calls) (goesOn : GoesOn tools calls)
    (call : Invocation) : Gated tools (calls ++ [call]) := by
  intro earlier nonempty isPrefix proper
  rcases List.prefix_concat_iff.mp isPrefix with whole | shorter
  · exact absurd whole proper
  · by_cases last : earlier = calls
    · rw [last]
      exact goesOn
    · exact gated earlier nonempty shorter last

theorem goesOn_of_found (few : calls.length ≤ 3)
    (exited : (tools calls).termination = .exited 0) : GoesOn tools calls where
  found _ := exited
  differs four := by omega

theorem Fetches.gated {fetched : Except Failure Bytes}
    (fetches : errand.Fetches tools calls fetched) : Gated tools calls := by
  have located := gated_singleton tools errand.repository
  cases fetches with
  | outside failed => exact located
  | untracked inside failed => exact located.append (goesOn_of_found (by simp) inside) _
  | unshown inside tracked failed reads =>
      have listed := located.append (goesOn_of_found (by simp) inside) errand.tracking
      exact listed.append (goesOn_of_found (by simp) tracked) _
  | shown inside tracked exited =>
      have listed := located.append (goesOn_of_found (by simp) inside) errand.tracking
      exact listed.append (goesOn_of_found (by simp) tracked) _

theorem Fetches.isPrefix {fetched : Except Failure Bytes}
    (fetches : errand.Fetches tools calls fetched) : calls <+: errand.lookups := by
  cases fetches with
  | outside failed => exact List.prefix_append [_] [_, _]
  | untracked inside failed => exact List.prefix_append [_, _] [_]
  | unshown inside tracked failed reads => exact List.prefix_rfl
  | shown inside tracked exited => exact List.prefix_rfl

theorem Fetches.of_ok {baseline : Bytes} (fetches : errand.Fetches tools calls (.ok baseline)) :
    calls = errand.lookups ∧ baseline = (tools errand.lookups).output ∧ GoesOn tools calls := by
  cases fetches with
  | shown inside tracked exited =>
      exact ⟨rfl, rfl, goesOn_of_found (Nat.le_refl 3) exited⟩

theorem Compares.calls_eq {told : Except Failure (List LineRange)}
    (compares : errand.Compares tools document calls told) :
    calls = errand.lookups ++ [errand.comparison document (tools errand.lookups).output] := by
  cases compares with
  | mk fetched tells =>
      rcases fetched.of_ok with ⟨rfl, rfl, -⟩
      rfl

theorem Compares.gated {told : Except Failure (List LineRange)}
    (compares : errand.Compares tools document calls told) : Gated tools calls := by
  cases compares with
  | mk fetched tells => exact fetched.gated.append fetched.of_ok.2.2 _

theorem Compares.goesOn {ranges : List LineRange}
    (compares : errand.Compares tools document calls (.ok ranges)) (changed : ranges ≠ []) :
    GoesOn tools calls := by
  have four : calls.length = 4 := by
    rw [compares.calls_eq]
    rfl
  refine ⟨by omega, fun _ => ?_⟩
  cases compares with
  | mk fetched tells =>
      cases tells with
      | same exited => exact absurd rfl changed
      | different exited encoded spaced areTokens =>
          refine ⟨exited, _, _, encoded, spaced, ?_, ?_⟩
          · rintro rfl
            exact changed (List.forall₂_nil_left_iff.mp areTokens)
          · have readable := areTokens.imp fun token range isToken =>
              show (∃ range, LineRange.IsToken token range) ∧ LineRange.IsToken token range from
                ⟨⟨range, isToken⟩, isToken⟩
            exact ((List.forall₂_and_left _ _).mp readable).1

theorem Formats.gated {told : Except Failure Batch}
    (formats : errand.Formats tools document calls told) : Gated tools calls := by
  cases formats with
  | mk compared changed tells => exact compared.gated.append (compared.goesOn changed) _

theorem Formats.exists_eq {told : Except Failure Batch}
    (formats : errand.Formats tools document calls told) :
    ∃ ranges, calls = errand.planned tools document ranges := by
  cases formats with
  | @mk before ranges _ compared changed tells =>
      refine ⟨ranges, ?_⟩
      rw [compared.calls_eq]
      rfl

section

variable {result : Except Failure Outcome} {left : Document}

theorem Ends.gated (ends : errand.Ends tools document calls result left) : Gated tools calls := by
  cases ends with
  | unfetched fetched => exact fetched.gated
  | uncompared compared => exact compared.gated
  | unchanged compared => exact compared.gated
  | unformatted formatted => exact formatted.gated
  | refused formatted refused => exact formatted.gated
  | applied formatted accepted => exact formatted.gated

theorem Compares.exists_isPrefix {told : Except Failure (List LineRange)}
    (compares : errand.Compares tools document calls told) :
    ∃ ranges, calls <+: errand.planned tools document ranges :=
  ⟨[], compares.calls_eq ▸ List.prefix_append _ _⟩

theorem Formats.exists_isPrefix {told : Except Failure Batch}
    (formats : errand.Formats tools document calls told) :
    ∃ ranges, calls <+: errand.planned tools document ranges := by
  rcases formats.exists_eq with ⟨ranges, whole⟩
  exact ⟨ranges, whole ▸ List.prefix_rfl⟩

theorem Ends.exists_isPrefix (ends : errand.Ends tools document calls result left) :
    ∃ ranges, calls <+: errand.planned tools document ranges := by
  cases ends with
  | unfetched fetched =>
      exact ⟨[], fetched.isPrefix.trans ((List.prefix_append _ _).trans (List.prefix_append _ _))⟩
  | uncompared compared => exact compared.exists_isPrefix
  | unchanged compared => exact compared.exists_isPrefix
  | unformatted formatted => exact formatted.exists_isPrefix
  | refused formatted refused => exact formatted.exists_isPrefix
  | applied formatted accepted => exact formatted.exists_isPrefix

theorem Ends.document_eq (ends : errand.Ends tools document calls result left)
    (unapplied : ∀ applied, result ≠ .ok (.formatted applied)) : left = document := by
  cases ends with
  | unfetched fetched => rfl
  | uncompared compared => rfl
  | unchanged compared => rfl
  | unformatted formatted => rfl
  | refused formatted refused => rfl
  | applied formatted accepted => exact absurd rfl (unapplied _)

end

end

/-- However the tools end, formatting the lines that changed ends as the relation has it. The calls
that are made are the first ones of those planned, each of them after calls that ended well only,
and unless a batch has been applied the document stays as it was. -/
theorem first_failure_ends_chain (errand : Errand) (tools : Tools) (document : Document) :
    let ended := (errand.run tools).on document []
    (∀ result left calls,
        ended = ((result, left), calls) ↔ errand.Ends tools document calls result left) ∧
      (∃ ranges, ended.2 <+: errand.planned tools document ranges) ∧
      (∀ earlier, earlier ≠ [] → earlier <+: ended.2 → earlier ≠ ended.2 →
        GoesOn tools earlier) ∧
      ((∀ applied, ended.1.1 ≠ .ok (.formatted applied)) → ended.1.2 = document) := by
  intro ended
  rcases exists_ends errand tools document with ⟨calls, result, left, ends⟩
  have execution : ended = ((result, left), calls) := ends.execution
  refine ⟨?_, ?_, ?_, ?_⟩
  · intro otherResult otherLeft otherCalls
    constructor
    · intro same
      cases execution.symm.trans same
      exact ends
    · exact Ends.execution
  · rw [execution]
    exact ends.exists_isPrefix
  · rw [execution]
    exact ends.gated
  · rw [execution]
    exact ends.document_eq

/-- `git show` complains in broken characters, or the second token of the comparison is no range
though the first one is, or the formatter is killed while it complains. -/
theorem first_failure_ends_chain_broken_diagnostics :
    let errand : Errand :=
      ⟨.standard, .standard, .standard, "d/a.c".toList, "a.c".toList, rfl, "HEAD".toList, 0,
        ⟨none, none, none⟩⟩
    let document := Document.ofHostText ['y']
    let git (arguments : List Text) : Invocation := ⟨"git".toList, arguments, [], none, ['d']⟩
    let lookups : List Invocation :=
      [git ["rev-parse".toList, "--show-toplevel".toList],
        git ["ls-files".toList, "--error-unmatch".toList, "--".toList, "a.c".toList],
        git ["show".toList, "HEAD:./a.c".toList]]
    let comparison : Invocation :=
      ⟨"diff".toList,
        ["--unchanged-group-format=".toList, "--old-group-format=".toList,
          "--new-group-format=%dF:%dL ".toList, "--changed-group-format=%dF:%dL ".toList,
          "--".toList],
        [[0x78], [0x79]], none, ['.']⟩
    let formatting : Invocation :=
      ⟨"clang-format".toList,
        ["--output-replacements-xml".toList, "--assume-filename=d/a.c".toList,
          "--lines=1:1".toList, "--cursor=0".toList],
        [], some [0x79], ['.']⟩
    let broken : Bytes := [0x66, 0xE2, 0x82, 0x3A, 0xFF]
    let complaint : Text := ['f', '\uFFFD', ':', '\uFFFD']
    let complaining : Tools := fun calls =>
      if calls.length ≤ 2 then ⟨.exited 0, [], []⟩
      else ⟨.exited 128, [], broken⟩
    let mistaken : Tools := fun calls =>
      if calls.length ≤ 3 then ⟨.exited 0, [0x78], []⟩
      else ⟨.exited 1, Utf8.encode "1:1 1-2".toList, []⟩
    let killing : Tools := fun calls =>
      if calls.length ≤ 3 then ⟨.exited 0, [0x78], []⟩
      else if calls.length = 4 then ⟨.exited 1, Utf8.encode "1:1 ".toList, []⟩
      else ⟨.signaled 9, [], broken⟩
    (errand.run complaining).on document [] =
        ((.error (.process "git".toList (.exited 128) complaint), document), lookups) ∧
      (errand.run mistaken).on document [] =
        ((.error (.malformed "diff".toList (.lineRange (.noColon "1-2".toList))), document),
          lookups ++ [comparison]) ∧
      (errand.run killing).on document [] =
        ((.error (.process "clang-format".toList (.signaled 9) complaint), document),
          lookups ++ [comparison] ++ [formatting]) := by
  intro errand document git lookups comparison formatting broken complaint complaining mistaken
    killing
  have reads : Utf8.ReadsLossy broken complaint := Utf8.decodeLossy_eq_iff.mp (by decide)
  have isToken : LineRange.IsToken "1:1".toList ⟨1, 1⟩ :=
    LineRange.read_eq_ok_iff.mp (by decide +kernel)
  refine ⟨?_, ?_, ?_⟩
  · have fetched : errand.Fetches complaining lookups
        (.error (.process "git".toList (.exited 128) complaint)) :=
      .unshown rfl rfl (by decide) reads
    exact ((first_failure_ends_chain errand complaining document).1 _ _ _).mpr (.unfetched fetched)
  · have spaced : Text.Spaced ["1:1".toList, "1-2".toList] "1:1 1-2".toList :=
      Text.words_eq_iff.mp (by decide)
    have wellFormed : ∀ token ∈ ["1:1".toList], ∃ range, LineRange.IsToken token range := by
      intro token member
      rcases List.mem_singleton.mp member with rfl
      exact ⟨_, isToken⟩
    have flaw : LineRange.Flaw "1-2".toList (.noColon "1-2".toList) :=
      LineRange.read_eq_error_iff.mp (by decide +kernel)
    have fetched : errand.Fetches mistaken lookups (.ok [0x78]) := .shown rfl rfl rfl
    have compared : errand.Compares mistaken document (lookups ++ [comparison])
        (.error (.malformed "diff".toList (.lineRange (.noColon "1-2".toList)))) :=
      .mk fetched (.misread rfl rfl spaced wellFormed flaw)
    exact ((first_failure_ends_chain errand mistaken document).1 _ _ _).mpr (.uncompared compared)
  · have spaced : Text.Spaced ["1:1".toList] "1:1 ".toList := Text.words_eq_iff.mp (by decide)
    have fetched : errand.Fetches killing lookups (.ok [0x78]) := .shown rfl rfl rfl
    have compared : errand.Compares killing document (lookups ++ [comparison]) (.ok [⟨1, 1⟩]) :=
      .mk fetched (.different rfl rfl spaced (.cons isToken .nil))
    have asked : errand.formatting document [⟨1, 1⟩] = formatting := by
      have arguments :
          ClangFormat.arguments (errand.request document [⟨1, 1⟩]) = formatting.arguments := by
        decide +kernel
      unfold Errand.formatting
      rw [arguments]
      rfl
    have formatted : errand.Formats killing document (lookups ++ [comparison] ++ [formatting])
        (.error (.process "clang-format".toList (.signaled 9) complaint)) := by
      rw [← asked]
      exact .mk compared (by simp) (.ended (by decide) reads)
    exact ((first_failure_ends_chain errand killing document).1 _ _ _).mpr (.unformatted formatted)

end Errand

end Reformat
