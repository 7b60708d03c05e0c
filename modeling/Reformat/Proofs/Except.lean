import Mathlib.Control.Monad.Basic
import Mathlib.Data.List.Forall2

/-!
Computations that may fail, taken apart at their steps.
-/

namespace Reformat

theorem ok_bind {ε α β : Type} (value : α) (next : α → Except ε β) :
    (.ok value >>= next) = next value := rfl

theorem throw_eq_ok_iff {ε α : Type} {cause : ε} {result : α} :
    (throw cause : Except ε α) = .ok result ↔ False := by
  constructor
  · intro equality
    cases equality
  · exact False.elim

theorem pure_eq_ok_iff {ε α : Type} {value result : α} :
    (pure value : Except ε α) = .ok result ↔ value = result := by
  constructor
  · intro equality
    exact Except.ok.inj equality
  · rintro rfl
    rfl

theorem bind_eq_ok_iff
    {ε α β : Type} {first : Except ε α} {next : α → Except ε β} {result : β} :
    (first >>= next) = .ok result ↔ ∃ value, first = .ok value ∧ next value = .ok result := by
  cases first with
  | error cause => simp [bind, Except.bind]
  | ok value => simp [bind, Except.bind]

theorem bind_eq_error_iff
    {ε α β : Type} {first : Except ε α} {next : α → Except ε β} {cause : ε} :
    (first >>= next) = .error cause ↔
      first = .error cause ∨ ∃ value, first = .ok value ∧ next value = .error cause := by
  cases first with
  | error other => simp [bind, Except.bind]
  | ok value => simp [bind, Except.bind]

/-- Failures may be renamed at each step. -/
theorem mapError_bind {ε δ α β : Type} (rename : ε → δ) (first : Except ε α)
    (next : α → Except ε β) :
    (first >>= next).mapError rename =
      first.mapError rename >>= fun value => (next value).mapError rename := by
  cases first with
  | error cause => rfl
  | ok value => rfl

/-- A step that fails under a condition, as a block writes it, and what comes after it. -/
theorem guard_eq_ok_iff
    {ε α : Type} {condition : Prop} [Decidable condition] {cause : ε}
    {next : PUnit → Except ε α} {result : α} :
    (if condition then throw cause >>= next else next PUnit.unit) = .ok result ↔
      ¬ condition ∧ next PUnit.unit = .ok result := by
  by_cases holds : condition
  · simp [holds, throw, throwThe, MonadExceptOf.throw, bind, Except.bind]
  · simp [holds]

theorem guard_eq_error_iff
    {ε α : Type} {condition : Prop} [Decidable condition] {cause other : ε}
    {next : PUnit → Except ε α} :
    (if condition then throw cause >>= next else next PUnit.unit) = .error other ↔
      condition ∧ cause = other ∨ ¬ condition ∧ next PUnit.unit = .error other := by
  by_cases holds : condition
  · simp [holds, throw, throwThe, MonadExceptOf.throw, bind, Except.bind]
  · simp [holds]

/-- Steps of one kind succeed just where each of them does, in order. -/
theorem mapM_eq_ok_iff
    {ε α β : Type} {step : α → Except ε β} {items : List α} {results : List β} :
    items.mapM step = .ok results ↔
      List.Forall₂ (fun item result => step item = .ok result) items results := by
  induction items generalizing results with
  | nil =>
      rw [List.mapM_nil, List.forall₂_nil_left_iff]
      constructor
      · intro done
        exact (Except.ok.inj done).symm
      · rintro rfl
        rfl
  | cons head tail ih =>
      rw [List.mapM_cons, List.forall₂_cons_left_iff]
      simp only [bind_eq_ok_iff, ih]
      constructor
      · rintro ⟨first, here, others, later, done⟩
        exact ⟨first, others, here, later, (Except.ok.inj done).symm⟩
      · rintro ⟨first, others, here, later, rfl⟩
        exact ⟨first, here, others, later, rfl⟩

theorem mapM_eq_ok_map {ε α β : Type} {step : α → Except ε β} {value : α → β} {items : List α}
    (succeeds : ∀ item ∈ items, step item = .ok (value item)) :
    items.mapM step = .ok (items.map value) := by
  rw [mapM_eq_ok_iff, List.forall₂_map_right_iff, List.forall₂_same]
  exact succeeds

/-- Steps of one kind fail with the cause of the first one that fails. -/
theorem mapM_eq_error_iff
    {ε α β : Type} {step : α → Except ε β} {items : List α} {cause : ε} :
    items.mapM step = .error cause ↔
      ∃ before item after, items = before ++ item :: after ∧
        (∀ earlier ∈ before, ∃ result, step earlier = .ok result) ∧ step item = .error cause := by
  induction items with
  | nil => simp [pure, Except.pure]
  | cons head tail inductionHypothesis =>
      rw [List.mapM_cons]
      simp only [bind_eq_error_iff, inductionHypothesis]
      constructor
      · intro failed
        rcases failed with here | ⟨first, done, later | ⟨results, -, impossible⟩⟩
        · exact ⟨[], head, tail, rfl, by simp, here⟩
        · rcases later with ⟨before, item, after, rfl, succeed, fails⟩
          refine ⟨head :: before, item, after, rfl, ?_, fails⟩
          exact List.forall_mem_cons.mpr ⟨⟨first, done⟩, succeed⟩
        · cases impossible
      · intro failed
        rcases failed with ⟨before, item, after, split, succeed, fails⟩
        cases before with
        | nil =>
            rcases List.cons.inj split with ⟨rfl, -⟩
            exact Or.inl fails
        | cons first rest =>
            rcases List.cons.inj split with ⟨rfl, rfl⟩
            rcases List.forall_mem_cons.mp succeed with ⟨⟨result, done⟩, others⟩
            exact Or.inr ⟨result, done, Or.inl ⟨rest, item, after, rfl, others, fails⟩⟩

end Reformat
