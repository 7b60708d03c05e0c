import Reformat.CommandLine.Run
import Reformat.Proofs.Program
import Reformat.Proofs.Reachability

/-!
Tools that leave something as it is. Main statement: what every program that is started keeps, an
operation keeps, and the document that it gives is the one it was given or has been edited.
-/

namespace Reformat

variable {world state ε α β : Type} {invariant : state → Prop}

namespace Program

/-- A program keeps what it finds, whether it succeeds or fails. -/
def Keeps (invariant : state → Prop) (program : Program world state ε α) : Prop :=
  Ensures invariant program (fun _ => invariant) (fun _ => invariant)

theorem Keeps.pure (value : α) :
    Keeps invariant (Pure.pure value : Program world state ε α) :=
  Ensures.pure fun _ holds => holds

theorem Keeps.throw (cause : ε) : Keeps invariant (throw cause : Program world state ε α) :=
  Ensures.throw fun _ holds => holds

theorem Keeps.bind {program : Program world state ε α} {next : α → Program world state ε β}
    (first : Keeps invariant program) (rest : ∀ value, Keeps invariant (next value)) :
    Keeps invariant (program >>= next) :=
  Ensures.bind first rest

theorem Keeps.ofExcept (result : Except ε α) :
    Keeps invariant (MonadExcept.ofExcept result : Program world state ε α) := by
  cases result with
  | ok value => exact .pure value
  | error cause => exact .throw cause

theorem Keeps.adapt {ε' : Type} {program : Program world state ε α} (change : ε → ε')
    (keeps : Keeps invariant program) :
    Keeps invariant (ExceptT.adapt change program : Program world state ε' α) := by
  intro before present holds
  have ends := keeps before present holds
  rw [on_adapt]
  revert ends
  generalize (program.on before present).1 = outcome
  obtain ⟨_ | _, _⟩ := outcome <;> exact id

theorem Keeps.lift {program : StateT state (StateM world) α}
    (keeps : ∀ before present, invariant before →
      invariant ((program.run before).run present).1.2) :
    Keeps invariant (liftM program : Program world state ε α) :=
  fun before present holds => keeps before present holds

end Program

open Program

/-- Every program that is started keeps something, whatever it is given. -/
def Launcher.Keeps (invariant : state → Prop) (launch : Launcher (StateT state (StateM world))) :
    Prop :=
  ∀ invocation before present, invariant before →
    invariant (((launch invocation).run before).run present).1.2

section

variable {launch : Launcher (StateT state (StateM world))}

theorem Launcher.Keeps.run (keeps : launch.Keeps invariant) (tool : Text) (codes : List Int)
    (invocation : Invocation) :
    Program.Keeps invariant (launch.run tool codes invocation) := by
  refine .bind (.lift (keeps invocation)) fun answer => ?_
  cases answer with
  | ok completion => exact .ofExcept _
  | error cause => cases cause <;> exact .throw _

theorem Launcher.Keeps.archive (keeps : launch.Keeps invariant) (git : Git) (path : Path)
    (revision : Text) : Program.Keeps invariant (git.archive launch path revision) := by
  unfold Git.archive
  cases Path.fileName? path with
  | none => exact .throw _
  | some name =>
      exact .bind (.adapt _ (keeps.run _ _ _)) fun _ => .bind (.adapt _ (keeps.run _ _ _)) fun _ =>
        .bind (keeps.run _ _ _) fun shown => .pure _

theorem Launcher.Keeps.comparer (keeps : launch.Keeps invariant) (diff : GnuDiff)
    (baseline current : Bytes) : Program.Keeps invariant (diff.comparer launch baseline current) :=
  .bind (keeps.run _ _ _) fun _ => .ofExcept _

theorem Launcher.Keeps.formatter (keeps : launch.Keeps invariant) (format : ClangFormat)
    (content : Bytes) (request : Request) :
    Program.Keeps invariant (format.formatter launch content request) :=
  .bind (keeps.run _ _ _) fun _ => .bind (.ofExcept _) fun _ => .ofExcept _

end

namespace Document

/-- A batch that is applied marks the document, unless it is empty. -/
theorem eq_or_dirty_of_apply {document edited : Document} {cursor : Nat} {batch : Batch}
    {applied : Applied} (accepted : document.apply cursor batch = .ok (applied, edited)) :
    edited = document ∨ edited.dirty = true := by
  by_cases nothing : batch.edits = []
  · exact .inl (eq_of_apply_nil accepted nothing)
  · exact .inr (dirty_of_apply accepted nothing)

/-- An operation keeps something, and its document is the given one unless it is marked. -/
def Leaves (invariant : state → Prop) (document : Document)
    (operation : Program world state Failure (Outcome × Document)) : Prop :=
  Ensures invariant operation
    (fun result after =>
      (result.2 = document ∨ result.2.dirty = true) ∧ invariant after)
    (fun _ => invariant)

theorem format_leaves {formatter : Formatter (StateT state (StateM world))}
    (keeps : ∀ content request, Program.Keeps invariant (formatter content request))
    (document : Document) (cursor : Nat) (style : Style) (restriction : Restriction) :
    document.Leaves invariant (document.format formatter cursor style restriction) := by
  refine Ensures.bind (keeps _ _) fun batch => ?_
  cases accepted : document.apply (document.byteOfChar cursor) batch with
  | error cause => exact .throw fun _ holds => holds
  | ok success =>
      obtain ⟨applied, edited⟩ := success
      exact .pure fun _ holds => ⟨eq_or_dirty_of_apply accepted, holds⟩

theorem formatChangedLines_leaves {formatter : Formatter (StateT state (StateM world))}
    {compare : Comparer (StateT state (StateM world))}
    {archive : Archive (StateT state (StateM world))}
    (formats : ∀ content request, Program.Keeps invariant (formatter content request))
    (compares : ∀ baseline current, Program.Keeps invariant (compare baseline current))
    (archives : ∀ path revision, Program.Keeps invariant (archive path revision))
    (document : Document) (path : Option Path) (revision : Text) (cursor : Nat) (style : Style) :
    document.Leaves invariant
      (document.formatChangedLines formatter compare archive path revision cursor style) := by
  cases path with
  | none => exact .throw fun _ holds => holds
  | some path =>
      refine Ensures.bind (archives _ _) fun baseline => .bind (compares _ _) fun ranges => ?_
      cases Restriction.ofChangedLines? ranges with
      | none => exact .pure fun _ holds => ⟨.inl rfl, holds⟩
      | some restriction => exact format_leaves formats _ _ _ _

end Document

theorem CommandLine.Action.operation_leaves {launch : Launcher (StateT state (StateM world))}
    (keeps : launch.Keeps invariant) (flags : Flags) (options : Options) (file : Path)
    (document : Document) :
    document.Leaves invariant (operation launch flags options file document) := by
  unfold operation
  split
  · exact Document.formatChangedLines_leaves (keeps.formatter _) (keeps.comparer _)
      (keeps.archive _) _ _ _ _ _
  · split
    · exact Document.format_leaves (keeps.formatter _) _ _ _ _
    · exact Document.format_leaves (keeps.formatter _) _ _ _ _

end Reformat
