import Reformat.Proofs.Agreement

/-!
One more switch on a command line. Main statement: the switch for writing the file in place may
stand anywhere where the arguments are still accepted, and changes nothing but itself.
-/

namespace Reformat.CommandLine

/-- The two spellings of the switch. -/
def inPlaceSwitches : List Text :=
  ["--in-place".toList, "-i".toList]

/-- The second arguments are the first with the switch for writing in place put in somewhere. -/
def Marks (arguments marked : List Text) : Prop :=
  ∃ switch ∈ inPlaceSwitches, ∃ front back,
    arguments = front ++ back ∧ marked = front ++ switch :: back

namespace Options

/-- The options with the file to be written in place. -/
def mark (options : Options) : Options :=
  { options with inPlace := true }

@[simp]
theorem flags_mark (options : Options) : options.mark.flags = options.flags := rfl

section

variable {options next middle result : Options} {value token : Text}
  {front back arguments : List Text}

theorem assign_mark {setting : Setting} (set : options.assign setting value = .ok next) :
    options.mark.assign setting value = .ok next.mark ∧ next.inPlace = options.inPlace := by
  cases setting <;>
    simp only [assign, mark, bind_eq_ok_iff, readPath_eq_ok_iff, pure_eq_ok_iff] at set ⊢
  case style | fallbackStyle | revision =>
    obtain ⟨_, free, rfl⟩ := set
    exact ⟨⟨_, free, rfl⟩, rfl⟩
  case formatter | diff | git | assumeFilename | cursor | region =>
    obtain ⟨_, free, _, given, rfl⟩ := set
    exact ⟨⟨_, free, _, given, rfl⟩, rfl⟩

theorem turnOn_mark {switch : Switch} (turned : options.turnOn switch = .ok next)
    (apart : next.inPlace = false) :
    options.mark.turnOn switch = .ok next.mark ∧ options.inPlace = false := by
  cases switch <;>
    simp only [turnOn, mark, bind_eq_ok_iff, raise_eq_ok_iff, pure_eq_ok_iff] at turned ⊢
  case version | help => cases turned
  case inPlace =>
    obtain ⟨_, ⟨_, rfl⟩, rfl⟩ := turned
    cases apart
  all_goals
    obtain ⟨_, ⟨off, rfl⟩, rfl⟩ := turned
    exact ⟨⟨_, ⟨off, rfl⟩, rfl⟩, apart⟩

theorem positional_mark (placed : options.positional value = .ok next) :
    options.mark.positional value = .ok next.mark ∧ next.inPlace = options.inPlace := by
  simp only [positional, mark, bind_eq_ok_iff, readPath_eq_ok_iff, pure_eq_ok_iff] at placed ⊢
  obtain ⟨_, free, _, given, rfl⟩ := placed
  exact ⟨⟨_, free, _, given, rfl⟩, rfl⟩

theorem cluster_mark {letters : Text} (raised : options.cluster letters = .ok next)
    (apart : next.inPlace = false) :
    options.mark.cluster letters = .ok next.mark ∧ options.inPlace = false := by
  induction letters generalizing options with
  | nil =>
      rw [← Except.ok.inj raised] at apart ⊢
      exact ⟨rfl, apart⟩
  | cons letter letters ih =>
      unfold cluster at raised ⊢
      cases lettered : switchLettered? letter with
      | none =>
          simp only [lettered] at raised
          cases raised
      | some switch =>
          simp only [lettered] at raised
          obtain ⟨middle, turned, rest⟩ := bind_eq_ok_iff.mp raised
          obtain ⟨later, between⟩ := ih rest
          obtain ⟨marked, off⟩ := turnOn_mark turned between
          exact ⟨bind_eq_ok_iff.mpr ⟨middle.mark, marked, later⟩, off⟩

theorem positionals_mark (placed : options.positionals back = .ok result)
    (apart : result.inPlace = false) :
    options.mark.positionals back = .ok result.mark ∧ options.inPlace = false := by
  induction back generalizing options with
  | nil =>
      rw [← Except.ok.inj placed] at apart ⊢
      exact ⟨rfl, apart⟩
  | cons operand rest ih =>
      obtain ⟨middle, first, others⟩ := bind_eq_ok_iff.mp placed
      obtain ⟨later, between⟩ := ih others
      obtain ⟨marked, same⟩ := positional_mark first
      exact ⟨bind_eq_ok_iff.mpr ⟨middle.mark, marked, later⟩, same ▸ between⟩

/-- A step that does not turn the switch on does the same where it is on already. -/
theorem Takes.mark (takes : options.Takes front next) (apart : next.inPlace = false) :
    options.mark.Takes front next.mark ∧ options.inPlace = false := by
  cases takes with
  | assigned named set =>
      obtain ⟨marked, same⟩ := assign_mark set
      exact ⟨.assigned named marked, same ▸ apart⟩
  | turned named turned =>
      obtain ⟨marked, off⟩ := turnOn_mark turned apart
      exact ⟨.turned named marked, off⟩
  | separate named undashed set =>
      obtain ⟨marked, same⟩ := assign_mark set
      exact ⟨.separate named undashed marked, same ▸ apart⟩
  | cluster short raised =>
      obtain ⟨marked, off⟩ := cluster_mark raised apart
      exact ⟨.cluster short marked, off⟩
  | operand plain placed =>
      obtain ⟨marked, same⟩ := positional_mark placed
      exact ⟨.operand plain marked, same ▸ apart⟩

theorem Reads.mark (reads : Reads options arguments result) (apart : result.inPlace = false) :
    Reads options.mark arguments result.mark ∧ options.inPlace = false := by
  induction reads with
  | done => exact ⟨.done, apart⟩
  | operands placed =>
      obtain ⟨marked, off⟩ := positionals_mark placed apart
      exact ⟨.operands marked, off⟩
  | step takes _ ih =>
      obtain ⟨later, between⟩ := ih apart
      obtain ⟨marked, off⟩ := takes.mark between
      exact ⟨.step marked later, off⟩

/-- What a step takes besides its first argument is a value. -/
theorem Takes.undashed (takes : options.Takes front next) :
    ∀ token ∈ front.tail, isDashed token = false := by
  cases takes with
  | separate _ undashed _ => simpa using undashed
  | assigned _ _ => simp
  | turned _ _ => simp
  | cluster _ _ => simp
  | operand _ _ => simp

/-- A step ends in front of every argument that cannot be a value. -/
theorem Reads.split (reads : Reads options (front ++ token :: back) result)
    (dashed : isDashed token = true) (undivided : ['-', '-'] ∉ front) :
    ∃ middle, Reads options front middle ∧ Reads middle (token :: back) result := by
  generalize whole : front ++ token :: back = arguments at reads
  induction reads generalizing front with
  | done => simp at whole
  | @operands options result rest placed =>
      cases front with
      | nil =>
          rw [List.nil_append] at whole
          rw [whole]
          exact ⟨options, .done, .operands placed⟩
      | cons first others =>
          rw [List.cons_append, List.cons.injEq] at whole
          exact absurd (by simp [whole.1]) undivided
  | @step options next result taken rest takes reads ih =>
      rcases List.append_eq_append_iff.mp whole with
        ⟨inside, rfl, remaining⟩ | ⟨inside, rfl, remaining⟩
      · -- The step reaches into what follows, which it can only where it starts there.
        cases inside with
        | nil =>
            rw [List.append_nil] at takes
            rw [List.nil_append] at remaining
            have alone : Reads options (front ++ []) next := .step takes .done
            rw [List.append_nil] at alone
            exact ⟨next, alone, remaining ▸ reads⟩
        | cons first others =>
            rw [List.cons_append, List.cons.injEq] at remaining
            obtain ⟨rfl, rfl⟩ := remaining
            cases front with
            | nil => exact ⟨options, .done, .step takes reads⟩
            | cons head tail =>
                have value := takes.undashed token (by simp)
                rw [dashed] at value
                cases value
      · rw [List.mem_append, not_or] at undivided
        obtain ⟨middle, before, behind⟩ := ih undivided.2 remaining.symm
        exact ⟨middle, .step takes before, behind⟩

theorem Reads.read_append (first : Reads options front middle) (undivided : ['-', '-'] ∉ front)
    (back : List Text) : options.read (front ++ back) = middle.read back := by
  induction first with
  | done => rfl
  | operands _ => exact absurd List.mem_cons_self undivided
  | step takes _ ih =>
      rw [List.mem_append, not_or] at undivided
      rw [List.append_assoc, takes.run, ih undivided.2]

theorem Reads.unique (first : Reads options arguments middle)
    (second : Reads options arguments result) : middle = result :=
  Except.ok.inj (first.run.symm.trans second.run)

/-- Where the switch stands, it is turned on. -/
theorem read_switch (member : token ∈ inPlaceSwitches) :
    options.read (token :: back) = options.turnOn .inPlace >>= fun next => next.read back := by
  have either : token = "--in-place".toList ∨ token = "-i".toList := by
    simpa [inPlaceSwitches] using member
  rcases either with rfl | rfl
  · have spelled : "--in-place".toList = '-' :: '-' :: "in-place".toList := by decide
    have nonempty : "in-place".toList ≠ [] := by decide
    have named : switchNamed? "in-place".toList = some .inPlace := by decide
    have whole : Text.splitOnce? '=' "in-place".toList = none := by decide
    rw [spelled, read_long nonempty, whole]
    simp only [named]
  · have spelled : "-i".toList = ['-', 'i'] := by decide
    have single : options.cluster ['i'] = options.turnOn .inPlace := by
      have lettered : switchLettered? 'i' = some .inPlace := rfl
      rw [cluster]
      simp only [lettered]
      cases options.turnOn .inPlace <;> rfl
    rw [spelled, read_cluster (by decide), single]

theorem turnOn_inPlace_eq_ok_iff :
    options.turnOn .inPlace = .ok next ↔ options.inPlace = false ∧ next = options.mark := by
  simp only [turnOn, mark, bind_eq_ok_iff, raise_eq_ok_iff, pure_eq_ok_iff]
  constructor
  · rintro ⟨_, ⟨off, rfl⟩, rfl⟩
    exact ⟨off, rfl⟩
  · rintro ⟨off, rfl⟩
    exact ⟨true, ⟨off, rfl⟩, rfl⟩

theorem reads_switch_iff (member : token ∈ inPlaceSwitches) :
    Reads options (token :: back) result ↔
      options.inPlace = false ∧ Reads options.mark back result := by
  rw [← read_eq_ok_iff, ← read_eq_ok_iff, read_switch member, bind_eq_ok_iff]
  simp only [turnOn_inPlace_eq_ok_iff, and_assoc, exists_and_left, exists_eq_left]

theorem reads_dashes_iff :
    Reads options (['-', '-'] :: back) result ↔ options.positionals back = .ok result := by
  rw [← read_eq_ok_iff, read]

/-- Behind `--`, one more argument is one operand too many. -/
theorem Reads.undivided {file : Path}
    (reads : Reads options (front ++ back) middle) (filled : middle.file = some file)
    (longer : Reads options (front ++ token :: back) result) : ['-', '-'] ∉ front := by
  intro divided
  obtain ⟨before, inside, rfl, absent⟩ := List.eq_append_cons_of_mem divided
  rw [List.append_assoc, List.cons_append] at reads longer
  obtain ⟨start, first, rest⟩ := reads.split (by decide) absent
  obtain ⟨again, second, placed⟩ := longer.split (by decide) absent
  obtain rfl := second.unique first
  rw [reads_dashes_iff] at rest placed
  rcases (positionals_flags placed).2 with nothing | ⟨operand, single⟩
  · simp at nothing
  · obtain ⟨rfl, rfl, rfl⟩ : inside = [] ∧ token = operand ∧ back = [] := by
      cases inside <;> simp_all
    obtain rfl : again = middle := Except.ok.inj rest
    obtain ⟨next, named, -⟩ := bind_eq_ok_iff.mp placed
    obtain ⟨-, free, -⟩ := positional_flags named
    rw [filled] at free
    cases free

/-- In front of the switch and behind it, arguments are read as they are without it. -/
theorem Reads.unmark (member : token ∈ inPlaceSwitches)
    (reads : Reads options (front ++ back) middle) (apart : middle.inPlace = false)
    (marked : Reads options (front ++ token :: back) result)
    (undivided : ['-', '-'] ∉ front) : result = middle.mark := by
  have dashed : isDashed token = true := by
    have all : ∀ token ∈ inPlaceSwitches, isDashed token = true := by decide
    exact all token member
  obtain ⟨start, before, rest⟩ := marked.split dashed undivided
  obtain ⟨-, behind⟩ := (reads_switch_iff member).mp rest
  have unmarked : start.read back = .ok middle :=
    (before.read_append undivided back).symm.trans reads.run
  exact behind.unique ((Reads.of_read unmarked).mark apart).1

end

end Options

/-- Where the switch is accepted, it is all that changes, also for the scan of the arguments. -/
theorem parse_marked {arguments marked : List Text} {options : Options} {file : Path}
    (accepted : parse arguments = .ok (options, file)) (off : options.inPlace = false)
    (marks : Marks arguments marked) (still : ∃ result, parse marked = .ok result) :
    parse marked = .ok (options.mark, file) ∧
      Flags.ofTokens marked = Flags.ofTokens arguments := by
  obtain ⟨switch, member, front, back, rfl, rfl⟩ := marks
  obtain ⟨⟨markedOptions, path⟩, still⟩ := still
  obtain ⟨reads, named, -⟩ := parse_eq_ok_iff.mp accepted
  obtain ⟨readsMarked, namedMarked, -⟩ := parse_eq_ok_iff.mp still
  have undivided := reads.undivided named readsMarked
  obtain rfl := reads.unmark member off readsMarked undivided
  obtain rfl : file = path := Option.some_inj.mp (named.symm.trans namedMarked)
  refine ⟨still, ?_⟩
  have apart : ∀ token ∈ front, token ≠ ['-', '-'] := by
    rintro token inside rfl
    exact undivided inside
  have alone : ∀ token ∈ [switch], token ≠ ['-', '-'] := by
    have all : ∀ token ∈ inPlaceSwitches, token ≠ ['-', '-'] := by decide
    simpa using all switch member
  have quiet : Flags.isVerbose switch = false := by
    have all : ∀ token ∈ inPlaceSwitches, Flags.isVerbose token = false := by decide
    exact all switch member
  rw [ofTokens_eq_of_parse accepted, ofTokens_eq_of_parse still, ← List.singleton_append,
    optionTokens_append apart, optionTokens_append apart, optionTokens_append alone,
    operandTokens_append apart, operandTokens_append apart, operandTokens_append alone]
  simp [quiet]

/-- The switch can stand in front. -/
theorem parse_cons_switch {arguments : List Text} {options : Options} {file switch : Text}
    (accepted : parse arguments = .ok (options, file)) (off : options.inPlace = false)
    (member : switch ∈ inPlaceSwitches) :
    parse (switch :: arguments) = .ok (options.mark, file) := by
  obtain ⟨reads, named, allowed⟩ := parse_eq_ok_iff.mp accepted
  obtain ⟨marked, -⟩ := reads.mark off
  exact parse_eq_ok_iff.mpr ⟨(Options.reads_switch_iff member).mpr ⟨rfl, marked⟩, named, allowed⟩

end Reformat.CommandLine
