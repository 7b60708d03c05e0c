/-!
Programs that may fail and that work on a state in a world of tools. A program that fails leaves the
state as it is by then. Main statement: what each step ensures of the state, the steps together
ensure.
-/

namespace Reformat

abbrev Program (world state ε α : Type) :=
  ExceptT ε (StateT state (StateM world)) α

namespace Program

variable {world state ε α β : Type}

/-- What a program gives, the state that it leaves, and the world. -/
def on (program : Program world state ε α) (before : state) (present : world) :
    (Except ε α × state) × world :=
  StateT.run (m := Id) (StateT.run (ExceptT.run program) before) present

theorem on_bind
    (program : Program world state ε α) (next : α → Program world state ε β)
    (before : state) (present : world) :
    (program >>= next).on before present =
      match program.on before present with
      | ((.ok value, after), later) => (next value).on after later
      | ((.error cause, after), later) => ((.error cause, after), later) := by
  unfold on
  change StateT.run (m := Id)
    (StateT.run (ExceptT.run program >>= ExceptT.bindCont next) before) present = _
  rw [StateT.run_bind, StateT.run_bind]
  generalize StateT.run (m := Id) (StateT.run (ExceptT.run program) before) present = outcome
  obtain ⟨⟨result, after⟩, later⟩ := outcome
  cases result with
  | error cause => rfl
  | ok value => rfl

theorem on_get (before : state) (present : world) :
    (get : Program world state ε state).on before present = ((.ok before, before), present) := rfl

theorem on_lift (work : StateM world α) (before : state) (present : world) :
    Program.on (liftM work : Program world state ε α) before present =
      ((.ok (work.run present).1, before), (work.run present).2) := rfl

theorem on_bind_of_ok
    {program : Program world state ε α} {before after : state} {present later : world} {value : α}
    (done : program.on before present = ((.ok value, after), later))
    (next : α → Program world state ε β) :
    (program >>= next).on before present = (next value).on after later := by
  rw [on_bind, done]

theorem on_bind_of_error
    {program : Program world state ε α} {before after : state} {present later : world} {cause : ε}
    (failed : program.on before present = ((.error cause, after), later))
    (next : α → Program world state ε β) :
    (program >>= next).on before present = ((.error cause, after), later) := by
  rw [on_bind, failed]

theorem on_ofExcept (result : Except ε α) (before : state) (present : world) :
    Program.on (MonadExcept.ofExcept result : Program world state ε α) before present =
      ((result, before), present) := by
  cases result with
  | error cause => rfl
  | ok value => rfl

/-- To change what a program fails with changes nothing else. -/
theorem on_adapt {ε' : Type} (change : ε → ε') (program : Program world state ε α)
    (before : state) (present : world) :
    Program.on (ExceptT.adapt change program : Program world state ε' α) before present =
      (((program.on before present).1.1.mapError change, (program.on before present).1.2),
        (program.on before present).2) := rfl

/-- Where a program starts in a state like the first, it ends in one like the second, which may
depend on the value, or fails in one like the third, which may depend on the cause. -/
def Ensures (pre : state → Prop) (program : Program world state ε α)
    (returns : α → state → Prop) (fails : ε → state → Prop) : Prop :=
  ∀ before present, pre before →
    match (program.on before present).1 with
    | (.ok value, after) => returns value after
    | (.error cause, after) => fails cause after

namespace Ensures

variable {pre : state → Prop} {program : Program world state ε α}
  {returns : α → state → Prop} {fails : ε → state → Prop}

theorem of_ok {before after : state} {present later : world} {value : α}
    (ensures : Ensures pre program returns fails) (holds : pre before)
    (done : program.on before present = ((.ok value, after), later)) :
    returns value after := by
  have ends := ensures before present holds
  rw [done] at ends
  exact ends

theorem of_error {before after : state} {present later : world} {cause : ε}
    (ensures : Ensures pre program returns fails) (holds : pre before)
    (failed : program.on before present = ((.error cause, after), later)) :
    fails cause after := by
  have ends := ensures before present holds
  rw [failed] at ends
  exact ends

/-- A program that fails nowhere gives a value. -/
theorem exists_ok {before : state} (present : world)
    (ensures : Ensures pre program returns fun _ _ => False) (holds : pre before) :
    ∃ value after later, program.on before present = ((.ok value, after), later) ∧
      returns value after := by
  cases result : program.on before present with
  | mk outcome later =>
      obtain ⟨cause | value, after⟩ := outcome
      · exact (ensures.of_error holds result).elim
      · exact ⟨value, after, later, rfl, ensures.of_ok holds result⟩

theorem anything : Ensures pre program (fun _ _ => True) (fun _ _ => True) := by
  intro before present _
  generalize (program.on before present).1 = result
  obtain ⟨_ | _, _⟩ := result <;> trivial

theorem mono {before : state → Prop} {ends : α → state → Prop} {breaks : ε → state → Prop}
    (ensures : Ensures pre program returns fails)
    (start : ∀ state, before state → pre state)
    (done : ∀ value state, returns value state → ends value state)
    (failed : ∀ cause state, fails cause state → breaks cause state) :
    Ensures before program ends breaks := by
  intro first present holds
  have outcome := ensures first present (start first holds)
  revert outcome
  generalize (program.on first present).1 = result
  obtain ⟨result | result, after⟩ := result
  · exact failed result after
  · exact done result after

theorem bind {next : α → Program world state ε β} {ends : β → state → Prop}
    (first : Ensures pre program returns fails)
    (rest : ∀ value, Ensures (returns value) (next value) ends fails) :
    Ensures pre (program >>= next) ends fails := by
  intro before present holds
  have outcome := first before present holds
  rw [on_bind]
  revert outcome
  generalize program.on before present = result
  obtain ⟨⟨result | value, after⟩, later⟩ := result
  · exact id
  · exact rest value after later

theorem pure {value : α} (holds : ∀ state, pre state → returns value state) :
    Ensures pre (Pure.pure value : Program world state ε α) returns fails :=
  fun before _ start => holds before start

theorem throw {cause : ε} (holds : ∀ state, pre state → fails cause state) :
    Ensures pre (throw cause : Program world state ε α) returns fails :=
  fun before _ start => holds before start

theorem get : Ensures pre (get : Program world state ε state)
    (fun value state => value = state ∧ pre state) fails :=
  fun _ _ start => ⟨rfl, start⟩

theorem modify {change : state → state} {returns : PUnit → state → Prop}
    (holds : ∀ state, pre state → returns ⟨⟩ (change state)) :
    Ensures pre (modify change : Program world state ε PUnit) returns fails :=
  fun before _ start => holds before start

end Ensures

end Program

end Reformat
