import Mathlib.Data.List.TakeWhile
import Reformat.Proofs.Arguments
import Reformat.Proofs.Tokens

/-!
The flags that are scanned from arguments as they stand, beside the options that the same arguments
are read into. Main statement: the two agree just where no cluster of letters asks to be verbose and
no operand behind `--` looks like an option that says something else.
-/

namespace Reformat.CommandLine

/-- The field that a setting gives a value to, if it is one that can be kept. -/
def Setting.field? : Setting → Option Flags.Field
  | .style => some .style
  | .fallbackStyle => some .fallbackStyle
  | .revision => some .revision
  | .formatter => some .formatter
  | .diff => some .diff
  | .git => some .git
  | .assumeFilename | .cursor | .region => none

/-- The options that can be kept. -/
def Options.flags (options : Options) : Flags where
  style := options.style
  fallbackStyle := options.fallbackStyle
  revision := options.revision
  formatter := options.formatter
  diff := options.diff
  git := options.git
  verbose := options.verbose

@[simp]
theorem Options.verbose_flags (options : Options) : options.flags.verbose = options.verbose := rfl

/-- Whether an argument is several letters behind one dash, among them the one for verbose. -/
def clustersVerbose : Text → Bool
  | '-' :: first :: second :: letters =>
      first != '-' && (first :: second :: letters).contains 'v'
  | _ => false

/-- The arguments in front of `--`. -/
def optionTokens (arguments : List Text) : List Text :=
  arguments.takeWhile (· ≠ ['-', '-'])

/-- The arguments behind `--`. -/
def operandTokens (arguments : List Text) : List Text :=
  (arguments.dropWhile (· ≠ ['-', '-'])).tail

section

variable {front : List Text}

theorem optionTokens_append
    (undivided : ∀ token ∈ front, token ≠ ['-', '-']) (rest : List Text) :
    optionTokens (front ++ rest) = front ++ optionTokens rest :=
  List.takeWhile_append_of_pos (by simpa using undivided)

theorem operandTokens_append
    (undivided : ∀ token ∈ front, token ≠ ['-', '-']) (rest : List Text) :
    operandTokens (front ++ rest) = operandTokens rest := by
  rw [operandTokens, List.dropWhile_append_of_pos (by simpa using undivided), operandTokens]

theorem optionTokens_dashes (rest : List Text) : optionTokens (['-', '-'] :: rest) = [] := by
  simp [optionTokens]

theorem operandTokens_dashes (rest : List Text) : operandTokens (['-', '-'] :: rest) = rest := by
  simp [operandTokens]

end

theorem ofName?_of_settingNamed? {name : Text} {setting : Setting}
    (named : settingNamed? name = some setting) :
    Flags.Field.ofName? ('-' :: '-' :: name) = setting.field? ∧
      Flags.isVerbose ('-' :: '-' :: name) = false := by
  have all : ∀ entry ∈ settings,
      Flags.Field.ofName? ('-' :: '-' :: entry.1.toList) = entry.2.field? ∧
        Flags.isVerbose ('-' :: '-' :: entry.1.toList) = false := by decide
  obtain ⟨entry, member, rfl, rfl⟩ := exists_entry_of_named named
  exact all entry member

theorem isVerbose_of_switchNamed? {name : Text} {switch : Switch}
    (named : switchNamed? name = some switch) :
    Flags.isVerbose ('-' :: '-' :: name) = (switch == .verbose) ∧
      Flags.Field.ofName? ('-' :: '-' :: name) = none := by
  have all : ∀ entry ∈ switches,
      Flags.isVerbose ('-' :: '-' :: entry.1.toList) = (entry.2 == .verbose) ∧
        Flags.Field.ofName? ('-' :: '-' :: entry.1.toList) = none := by decide
  obtain ⟨entry, member, rfl, rfl⟩ := exists_entry_of_named named
  exact all entry member

theorem letter_eq_iff {letter : Char} {switch : Switch}
    (named : switchLettered? letter = some switch) :
    letter = 'v' ↔ switch = .verbose := by
  unfold switchLettered? at named
  split at named <;> cases named
  case h_2 => simp
  all_goals decide

theorem clustersVerbose_long (long : Text) : clustersVerbose ('-' :: '-' :: long) = false := by
  cases long <;> rfl

/-- A cluster of one letter is heard, a longer one is not. -/
theorem countP_cluster {letter : Char} {letters : Text} (short : letter ≠ '-')
    (once : (letter :: letters).count 'v' ≤ 1) :
    ['-' :: letter :: letters].countP Flags.isVerbose +
      ['-' :: letter :: letters].countP clustersVerbose = (letter :: letters).count 'v' := by
  match letters with
  | [] =>
      by_cases verbose : letter = 'v'
      · subst verbose
        decide
      · simp [Flags.isVerbose, clustersVerbose, verbose]
  | second :: more =>
      have unheard : Flags.isVerbose ('-' :: letter :: second :: more) = false := by
        simp [Flags.isVerbose, short]
      by_cases verbose : 'v' ∈ letter :: second :: more
      · have positive := List.count_pos_iff.mpr verbose
        have one : (letter :: second :: more).count 'v' = 1 := by omega
        have heard : clustersVerbose ('-' :: letter :: second :: more) = true := by
          simpa [clustersVerbose, short] using verbose
        simp [unheard, heard, one]
      · have quiet : clustersVerbose ('-' :: letter :: second :: more) = false := by
          simpa [clustersVerbose, short] using verbose
        simp [unheard, quiet, List.count_eq_zero_of_not_mem verbose]

/-- A value that stands on its own says nothing to the scan. -/
theorem quiet_of_undashed {value : Text} (undashed : Options.isDashed value = false) :
    Flags.isVerbose value = false ∧ clustersVerbose value = false ∧ ¬ ['-', '-'] <+: value := by
  have free := Options.isDashed_eq_false_iff.mp undashed
  match value with
  | [] => decide
  | [c] => simp [Flags.isVerbose, clustersVerbose]
  | c :: letter :: letters =>
      have other : c ≠ '-' := by
        rintro rfl
        exact free letter letters rfl
      simp [Flags.isVerbose, clustersVerbose, other, Ne.symm other]

namespace Options

section

variable {options next result : Options} {value : Text} {arguments : List Text}

theorem once_eq_ok_iff {α : Type} {field : Option α} {done : Unit} :
    once field = .ok done ↔ field = none := by
  cases field <;> simp [once, throw_eq_ok_iff, pure_eq_ok_iff]

theorem raise_eq_ok_iff {field raised : Bool} :
    raise field = .ok raised ↔ field = false ∧ raised = true := by
  cases field <;> cases raised <;> simp [raise, throw_eq_ok_iff, pure_eq_ok_iff]

theorem readPath_eq_ok_iff {path : Option Path} :
    readPath value = .ok path ↔ value ≠ [] ∧ path = some value := by
  cases value <;> simp [readPath, throw_eq_ok_iff, pure_eq_ok_iff, @eq_comm _ path]

/-- A setting that can be kept gives its field the value as it stands. -/
theorem assign_flags {setting : Setting} (set : options.assign setting value = .ok next) :
    next.flags =
      setting.field?.elim options.flags fun field => options.flags.set field value := by
  cases setting <;>
    simp only [assign, bind_eq_ok_iff, readPath_eq_ok_iff, pure_eq_ok_iff] at set
  case style | fallbackStyle | revision =>
    obtain ⟨_, _, rfl⟩ := set
    rfl
  case formatter | diff | git =>
    obtain ⟨_, _, _, ⟨_, rfl⟩, rfl⟩ := set
    rfl
  case assumeFilename | cursor | region =>
    obtain ⟨_, _, _, _, rfl⟩ := set
    rfl

theorem assign_verbose {setting : Setting} (set : options.assign setting value = .ok next) :
    next.verbose = options.verbose := by
  have kept : next.flags.verbose = options.flags.verbose := by
    rw [assign_flags set]
    cases setting.field? <;> simp
  exact kept

/-- A switch is turned on once. -/
theorem turnOn_flags {switch : Switch} (turned : options.turnOn switch = .ok next) :
    next.flags = { options.flags with verbose := next.verbose } ∧
      options.verbose.toNat + (if switch = .verbose then 1 else 0) = next.verbose.toNat := by
  cases switch <;>
    simp only [turnOn, bind_eq_ok_iff, raise_eq_ok_iff, pure_eq_ok_iff] at turned
  case version | help => cases turned
  all_goals
    obtain ⟨_, ⟨off, rfl⟩, rfl⟩ := turned
  case verbose => simp [off, flags]
  all_goals
    exact ⟨rfl, rfl⟩

theorem positional_flags (placed : options.positional value = .ok next) :
    next.flags = options.flags ∧ options.file = none ∧ next.file = some value := by
  simp only [positional, bind_eq_ok_iff, once_eq_ok_iff, readPath_eq_ok_iff, pure_eq_ok_iff]
    at placed
  obtain ⟨_, free, _, ⟨_, rfl⟩, rfl⟩ := placed
  exact ⟨rfl, free, rfl⟩

/-- Operands cannot be more than one, and leave the flags as they are. -/
theorem positionals_flags {rest : List Text} (placed : options.positionals rest = .ok result) :
    result.flags = options.flags ∧ (rest = [] ∨ ∃ operand, rest = [operand]) := by
  match rest with
  | [] =>
      rw [← Except.ok.inj placed]
      exact ⟨rfl, .inl rfl⟩
  | operand :: more =>
      obtain ⟨next, first, others⟩ := bind_eq_ok_iff.mp placed
      obtain ⟨same, -, filled⟩ := positional_flags first
      match more with
      | [] =>
          rw [← Except.ok.inj others]
          exact ⟨same, .inr ⟨operand, rfl⟩⟩
      | second :: _ =>
          obtain ⟨_, again, _⟩ := bind_eq_ok_iff.mp others
          obtain ⟨-, free, -⟩ := positional_flags again
          rw [filled] at free
          cases free

/-- Each letter of a cluster turns a switch on. -/
theorem cluster_flags {letters : Text} (raised : options.cluster letters = .ok next) :
    next.flags = { options.flags with verbose := next.verbose } ∧
      options.verbose.toNat + letters.count 'v' = next.verbose.toNat := by
  induction letters generalizing options with
  | nil =>
      rw [← Except.ok.inj raised]
      exact ⟨rfl, rfl⟩
  | cons letter letters ih =>
      unfold cluster at raised
      split at raised
      · cases raised
      · rename_i switch named
        obtain ⟨middle, turned, rest⟩ := bind_eq_ok_iff.mp raised
        obtain ⟨first, counted⟩ := turnOn_flags turned
        obtain ⟨others, recounted⟩ := ih rest
        refine ⟨by rw [others, first], ?_⟩
        rw [List.count_cons, ← recounted, ← counted]
        simp only [beq_iff_eq, letter_eq_iff named]
        omega

/-- What one step of the reader does to the flags, the scan does as well, except that it does not
hear a switch in a cluster. -/
theorem Takes.scan {front : List Text} (takes : options.Takes front next) (verbose : Bool)
    (rest : List Text) :
    { options.flags with verbose }.readTokens (front ++ rest) =
      { next.flags with verbose := verbose || front.any Flags.isVerbose }.readTokens rest := by
  cases takes with
  | @assigned _ name value setting named set =>
      have plain : '=' ∉ '-' :: '-' :: name := by
        simp [(plain_of_settingNamed? named).2]
      have quiet : Flags.isVerbose ('-' :: '-' :: (name ++ '=' :: value)) = false :=
        Flags.isVerbose_assignment ('-' :: '-' :: name) value
      have read := @Flags.readTokens_assignment { options.flags with verbose } value rest _ plain
      rw [(ofName?_of_settingNamed? named).1] at read
      rw [assign_flags set]
      refine read.trans ?_
      cases setting.field? <;> simp [Flags.set_heard, quiet]
  | @turned _ name switch named turned =>
      have plain : '=' ∉ '-' :: '-' :: name := by
        simp [(plain_of_switchNamed? named).2]
      rw [List.singleton_append, (turnOn_flags turned).1,
        Flags.readTokens_bare (Flags.assignment?_eq_none plain)
          (isVerbose_of_switchNamed? named).2]
      simp
  | @separate _ name value setting named undashed set =>
      have plain : '=' ∉ '-' :: '-' :: name := by
        simp [(plain_of_settingNamed? named).2]
      obtain ⟨kept, quiet⟩ := ofName?_of_settingNamed? named
      obtain ⟨still, -, inside⟩ := quiet_of_undashed undashed
      rw [List.cons_append, List.singleton_append, assign_flags set]
      cases field : setting.field? with
      | none =>
          rw [Flags.readTokens_bare (Flags.assignment?_eq_none plain) (kept.trans field),
            Flags.readTokens_plain inside]
          simp [quiet, still]
      | some field' =>
          rw [Flags.Field.ofName?_eq_some_iff.mp (kept.trans field), Flags.readTokens_name]
          simp [Flags.set_heard, still, Flags.Field.isVerbose_name]
  | @cluster _ letter letters short raised =>
      have plain : ¬ ['-', '-'] <+: '-' :: letter :: letters := by
        simp [Ne.symm short]
      rw [List.singleton_append, Flags.readTokens_plain plain, (cluster_flags raised).1]
      simp
  | @operand _ value undashed placed =>
      obtain ⟨-, -, plain⟩ := quiet_of_undashed undashed
      rw [List.singleton_append, Flags.readTokens_plain plain, (positional_flags placed).1]
      simp

/-- An argument asks to be verbose once, and only where nothing in front of it does. -/
theorem Takes.counted {front : List Text} (takes : options.Takes front next) :
    options.verbose.toNat + (front.countP Flags.isVerbose + front.countP clustersVerbose) =
      next.verbose.toNat := by
  cases takes with
  | @assigned _ name value setting named set =>
      have quiet : Flags.isVerbose ('-' :: '-' :: (name ++ '=' :: value)) = false :=
        Flags.isVerbose_assignment ('-' :: '-' :: name) value
      simp [quiet, clustersVerbose_long, assign_verbose set]
  | @turned _ name switch named turned =>
      have heard := (isVerbose_of_switchNamed? named).1
      have counted := (turnOn_flags turned).2
      simpa [List.countP_cons, heard, clustersVerbose_long] using counted
  | @separate _ name value setting named undashed set =>
      obtain ⟨-, quiet⟩ := ofName?_of_settingNamed? named
      obtain ⟨still, alone, -⟩ := quiet_of_undashed undashed
      simp [quiet, still, alone, clustersVerbose_long, assign_verbose set]
  | @cluster _ letter letters short raised =>
      obtain ⟨-, counted⟩ := cluster_flags raised
      have once : (letter :: letters).count 'v' ≤ 1 := by
        have bound := next.verbose.toNat_le
        omega
      rw [countP_cluster short once, counted]
  | @operand _ value undashed placed =>
      obtain ⟨quiet, alone, -⟩ := quiet_of_undashed undashed
      have kept : next.verbose = options.verbose :=
        congrArg Flags.verbose (positional_flags placed).1
      simp [quiet, alone, kept]

theorem Takes.undivided {front : List Text} (takes : options.Takes front next) :
    ∀ token ∈ front, token ≠ ['-', '-'] := by
  cases takes with
  | @assigned _ name value setting named set => simp
  | @turned _ name switch named turned =>
      simp [(plain_of_switchNamed? named).1]
  | @separate _ name value setting named undashed set =>
      have free : value ≠ ['-', '-'] := isDashed_eq_false_iff.mp undashed '-' []
      simp [(plain_of_settingNamed? named).1, free]
  | @cluster _ letter letters short raised => simp [short]
  | @operand _ value plain placed =>
      have free : value ≠ ['-', '-'] := isDashed_eq_false_iff.mp plain '-' []
      simp [free]

theorem Reads.scan (reads : Reads options arguments result) (verbose : Bool) :
    { options.flags with verbose }.readTokens arguments =
      { result.flags with
        verbose := verbose || (optionTokens arguments).any Flags.isVerbose }.readTokens
          (operandTokens arguments) := by
  induction reads generalizing verbose with
  | done => simp [optionTokens, operandTokens]
  | @operands options result rest placed =>
      rw [Flags.readTokens_bare (by decide) (by decide), (positionals_flags placed).1,
        optionTokens_dashes, operandTokens_dashes]
      simp [Flags.isVerbose]
  | step takes _ ih =>
      rw [takes.scan, ih, optionTokens_append takes.undivided,
        operandTokens_append takes.undivided, List.any_append, Bool.or_assoc]

theorem Reads.counted (reads : Reads options arguments result) :
    options.verbose.toNat +
        ((optionTokens arguments).countP Flags.isVerbose +
          (optionTokens arguments).countP clustersVerbose) =
      result.verbose.toNat := by
  induction reads with
  | done => simp [optionTokens]
  | @operands options result rest placed =>
      have kept : result.verbose = options.verbose :=
        congrArg Flags.verbose (positionals_flags placed).1
      simp [optionTokens_dashes, kept]
  | step takes _ ih =>
      have here := takes.counted
      rw [optionTokens_append takes.undivided, List.countP_append, List.countP_append]
      omega

/-- A cluster that asks is all that asks, and is not heard. -/
theorem Reads.heard_iff (reads : Reads options arguments result) (quiet : options.verbose = false) :
    (optionTokens arguments).any Flags.isVerbose = result.verbose ↔
      ∀ token ∈ optionTokens arguments, clustersVerbose token = false := by
  have counted := reads.counted
  have clusters : (∀ token ∈ optionTokens arguments, clustersVerbose token = false) ↔
      (optionTokens arguments).countP clustersVerbose = 0 := by
    simp [List.countP_eq_zero]
  have heard : (optionTokens arguments).any Flags.isVerbose =
      decide (0 < (optionTokens arguments).countP Flags.isVerbose) := by
    rw [Bool.eq_iff_iff]
    simp [List.countP_pos_iff]
  rw [clusters, heard]
  rw [quiet, Bool.toNat_false, Nat.zero_add] at counted
  cases verbose : result.verbose with
  | false =>
      rw [verbose, Bool.toNat_false] at counted
      simp only [decide_eq_false_iff_not]
      omega
  | true =>
      rw [verbose, Bool.toNat_true] at counted
      simp only [decide_eq_true_eq]
      omega

theorem Reads.operands_le_one (reads : Reads options arguments result) :
    operandTokens arguments = [] ∨ ∃ operand, operandTokens arguments = [operand] := by
  induction reads with
  | done => exact .inl rfl
  | @operands options result rest placed =>
      rw [operandTokens_dashes]
      exact (positionals_flags placed).2
  | step takes _ ih =>
      rw [operandTokens_append takes.undivided]
      exact ih

end
end Options

/-- The scan of accepted arguments hears the switches that stand alone, and reads on behind `--`. -/
theorem ofTokens_eq_of_parse {arguments : List Text} {options : Options} {file : Path}
    (accepted : parse arguments = .ok (options, file)) :
    Flags.ofTokens arguments =
      { options.flags with verbose := (optionTokens arguments).any Flags.isVerbose }.readTokens
        (operandTokens arguments) := by
  obtain ⟨reads, -, -⟩ := parse_eq_ok_iff.mp accepted
  have scanned := reads.scan false
  rw [Bool.false_or] at scanned
  exact scanned

/-- The flags in effect are the ones that were asked for unless a cluster asks to be verbose and is
not heard, or the operand behind `--` is heard as an option. -/
theorem ofTokens_eq_flags_iff {arguments : List Text} {options : Options} {file : Path}
    (accepted : parse arguments = .ok (options, file)) :
    Flags.ofTokens arguments = options.flags ↔
      ((∃ token ∈ optionTokens arguments, clustersVerbose token = true) →
        ∃ operand ∈ operandTokens arguments, Flags.isVerbose operand = true) ∧
      ∀ operand ∈ operandTokens arguments,
        (Flags.isVerbose operand = true → options.verbose = true) ∧
        ∀ field value, operand = Flags.Field.name field ++ '=' :: value →
          options.flags.get field = some value := by
  obtain ⟨reads, -, -⟩ := parse_eq_ok_iff.mp accepted
  have heard := reads.heard_iff rfl
  rw [ofTokens_eq_of_parse accepted]
  rcases reads.operands_le_one with nothing | ⟨operand, single⟩
  · rw [nothing, Flags.readTokens, Flags.heard_eq_self_iff]
    simpa using heard
  · rw [single, Flags.readTokens_singleton]
    cases assigned : Flags.assignment? operand with
    | none =>
        have free : ∀ field value, operand ≠ Flags.Field.name field ++ '=' :: value := by
          intro field value same
          rw [Flags.assignment?_eq_some_iff.mpr same] at assigned
          cases assigned
        simp only [List.mem_singleton, exists_eq_left, forall_eq]
        rw [Flags.heard_eq_self_iff]
        cases verbose : Flags.isVerbose operand with
        | false => simpa [free] using heard
        | true => simp [free]
    | some pair =>
        obtain ⟨field, value⟩ := pair
        obtain rfl := Flags.assignment?_eq_some_iff.mp assigned
        have same : ∀ other text,
            field.name ++ '=' :: value = Flags.Field.name other ++ '=' :: text ↔
              field = other ∧ value = text := by
          intro other text
          rw [← Flags.assignment?_eq_some_iff, assigned]
          simp
        simp only [List.mem_singleton, exists_eq_left, forall_eq, same, Flags.isVerbose_assignment,
          Flags.set_heard, Flags.set_heard_eq_iff]
        simpa using fun _ => heard

/-- Each form of an option once, the switches on their own, and a file that looks like none. -/
theorem ofTokens_eq_flags_apart :
    let arguments := ["--style".toList, "LLVM".toList, "--git=g".toList, "-i".toList,
      "-v".toList, "--".toList, "a.c".toList]
    let options : Options :=
      { Options.empty with
        file := some "a.c".toList, style := some "LLVM".toList, git := some "g".toList,
        inPlace := true, verbose := true }
    parse arguments = .ok (options, "a.c".toList) ∧
      Flags.ofTokens arguments = options.flags := by
  intro arguments options
  have accepted : parse arguments = .ok (options, "a.c".toList) := by rfl
  have operands : operandTokens arguments = ["a.c".toList] := by decide
  refine ⟨accepted, (ofTokens_eq_flags_iff accepted).mpr ⟨by decide, ?_⟩⟩
  rw [operands]
  simp only [List.mem_singleton, forall_eq]
  refine ⟨by decide, ?_⟩
  intro field value same
  have absent : '=' ∉ "a.c".toList := by decide
  rw [same] at absent
  exact absurd (by simp) absent

/-- The letter for verbose goes unheard in a cluster, and a file gives a style by its name. -/
theorem ofTokens_ne_flags_clustered :
    let arguments := ["-iv".toList, "--".toList, "--style=x".toList]
    let options : Options :=
      { Options.empty with
        file := some "--style=x".toList, inPlace := true, verbose := true }
    parse arguments = .ok (options, "--style=x".toList) ∧
      Flags.ofTokens arguments = { Flags.empty with style := some "x".toList } ∧
      Flags.ofTokens arguments ≠ options.flags := by
  decide

end Reformat.CommandLine
