import Reformat.Proofs.Defaults
import Reformat.Proofs.Settling

/-!
Files of defaults that are saved and cleared any number of times. Main statement: what is loaded
tells the last change and nothing of those before, and after saving it is what was saved just where
every value is a word.
-/

namespace Reformat

namespace Config

/-! ## One change -/

/-- What is done to a file of defaults. -/
inductive Change where
  | save (flags : Flags)
  | clear
deriving DecidableEq, Repr

namespace Change

def on (path : Path) (tree : Tree) : Change → Except Complaint Unit × Tree
  | save flags => Config.save tree path flags
  | clear => Config.clear tree path

/-- The flags that a file tells after a change. -/
def told : Change → Flags
  | save flags => Flags.ofTokens (tokens (savedText flags))
  | clear => Flags.empty

/-- Changes made one after the other, up to the first that fails. -/
def onAll (path : Path) (tree : Tree) : List Change → Except Complaint Unit × Tree
  | [] => (.ok (), tree)
  | change :: rest =>
      match change.on path tree with
      | (.ok (), changed) => onAll path changed rest
      | (.error complaint, changed) => (.error complaint, changed)

end Change

section

variable {tree kept : Tree} {path : Path} {changes : List Change} {last : Change}

theorem clear_eq_ok_iff :
    clear tree path = (.ok (), kept) ↔
      tree.has path = true ∧ tree.remove path = .ok kept ∨
        tree.has path = false ∧ kept = tree := by
  unfold clear
  cases there : tree.has path with
  | false => simp [eq_comm]
  | true =>
      cases removed : tree.remove path with
      | ok after => simp
      | error cause => simp

/-- Nothing is told by a file that has been cleared, which may not have been there. -/
theorem load_of_clear (cleared : clear tree path = (.ok (), kept)) :
    load kept path = .ok .empty := by
  rcases clear_eq_ok_iff.mp cleared with ⟨-, removed⟩ | ⟨free, rfl⟩
  · exact load_of_free (Tree.has_of_remove removed)
  · exact load_of_free free

theorem load_of_change (changed : last.on path tree = (.ok (), kept)) :
    load kept path = .ok last.told := by
  cases last with
  | save flags => exact load_of_save changed
  | clear => exact load_of_clear changed

/-! ## All changes -/

theorem onAll_cons_eq_ok_iff :
    Change.onAll path tree (last :: changes) = (.ok (), kept) ↔
      ∃ changed, last.on path tree = (.ok (), changed) ∧
        Change.onAll path changed changes = (.ok (), kept) := by
  rw [Change.onAll]
  cases result : last.on path tree with
  | mk verdict changed =>
      cases verdict with
      | ok done => simp
      | error complaint => simp

theorem onAll_append_eq_ok_iff :
    Change.onAll path tree (changes ++ [last]) = (.ok (), kept) ↔
      ∃ changed, Change.onAll path tree changes = (.ok (), changed) ∧
        last.on path changed = (.ok (), kept) := by
  induction changes generalizing tree with
  | nil =>
      rw [List.nil_append, onAll_cons_eq_ok_iff]
      constructor
      · intro changes
        rcases changes with ⟨changed, first, done⟩
        cases done
        exact ⟨tree, rfl, first⟩
      · intro changes
        rcases changes with ⟨changed, done, first⟩
        cases done
        exact ⟨kept, first, rfl⟩
  | cons head rest inductionHypothesis =>
      rw [List.cons_append, onAll_cons_eq_ok_iff]
      simp only [onAll_cons_eq_ok_iff, inductionHypothesis]
      constructor
      · intro changes
        rcases changes with ⟨first, changed, middle, later, done⟩
        exact ⟨middle, ⟨first, changed, later⟩, done⟩
      · intro changes
        rcases changes with ⟨middle, ⟨first, changed, later⟩, done⟩
        exact ⟨first, changed, middle, later, done⟩

/-- However many changes came before, the file tells the last one. -/
theorem load_of_onAll (changed : Change.onAll path tree (changes ++ [last]) = (.ok (), kept)) :
    load kept path = .ok last.told := by
  rcases onAll_append_eq_ok_iff.mp changed with ⟨middle, -, done⟩
  exact load_of_change done

end

/-- After any changes that succeed, flags that were saved last are loaded just where each value is a
word, which is neither empty nor has a blank in it, and nothing is loaded where the file was cleared
last. What came before makes no difference, nor what there was in the beginning. -/
theorem load_tells_last_change
    {tree kept : Tree} {path : Path} {changes : List Change} {last : Change}
    (changed : Change.onAll path tree (changes ++ [last]) = (.ok (), kept)) :
    (∀ flags, last = .save flags → (load kept path = .ok flags ↔ flags.Plain)) ∧
    (last = .clear → load kept path = .ok .empty) ∧
    ∀ other others found, Change.onAll path other (others ++ [last]) = (.ok (), found) →
      load found path = load kept path := by
  have loaded := load_of_onAll changed
  refine ⟨?_, ?_, ?_⟩
  · intro flags saved
    rw [loaded, saved, Except.ok.injEq]
    exact Flags.ofTokens_tokens_savedText_iff
  · intro cleared
    rw [loaded, cleared]
    rfl
  · intro other others found elsewhere
    rw [load_of_onAll elsewhere, loaded]

/-- Values that look like flags, comments and switches come back behind a file that was none, and
one of two words does not, whatever the value next to it. -/
theorem load_tells_last_change_lookalikes :
    let path := "d/rc".toList
    let tree : Tree := ⟨[['w']], [([['w'], ['d']], .directory),
      ([['w'], ['d'], ['r', 'c']], .file [0xff])]⟩
    let flags : Flags := ⟨some "--git".toList, some "#a=b".toList, some "-v".toList, none,
      some "--diff=".toList, none, true⟩
    let spread : Flags := { flags with style := some "LLVM --revision".toList }
    let saved := Change.onAll path tree [.save spread, .clear, .clear, .save flags]
    let lost := Change.onAll path tree [.save flags, .save spread]
    let cleared := Change.onAll path tree [.save flags, .clear]
    (saved.1 = .ok () ∧ load saved.2 path = .ok flags) ∧
      (lost.1 = .ok () ∧ load lost.2 path ≠ .ok spread) ∧
      (cleared.1 = .ok () ∧ load cleared.2 path = .ok .empty) := by
  intro path tree flags spread saved lost cleared
  have savedDone : saved = (.ok (), saved.2) := Prod.ext (by decide +kernel) rfl
  have lostDone : lost = (.ok (), lost.2) := Prod.ext (by decide +kernel) rfl
  have clearedDone : cleared = (.ok (), cleared.2) := Prod.ext (by decide +kernel) rfl
  have plain : flags.Plain := by decide +kernel
  have parted : ¬ spread.Plain := by decide +kernel
  have kept := @load_tells_last_change tree _ path [.save spread, .clear, .clear] (.save flags)
    savedDone
  have spreads := @load_tells_last_change tree _ path [.save flags] (.save spread) lostDone
  have nothing := @load_tells_last_change tree _ path [.save flags] .clear clearedDone
  refine ⟨⟨by rw [savedDone], (kept.1 flags rfl).mpr plain⟩, ⟨by rw [lostDone], ?_⟩,
    ⟨by rw [clearedDone], nothing.2.1 rfl⟩⟩
  intro loaded
  exact parted ((spreads.1 spread rfl).mp loaded)

end Config

end Reformat
