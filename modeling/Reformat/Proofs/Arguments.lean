import Reformat.CommandLine.Arguments
import Reformat.Proofs.Except

/-!
Command lines as they are read, argument by argument. Main statement: reading succeeds just where
each argument, or pair of arguments, is one that the grammar has, and each takes effect in turn.
-/

namespace Reformat.CommandLine

/-- What a name of a table stands for, it stands for in an entry. -/
theorem exists_entry_of_named {α : Type} {table : List (String × α)} {name : Text} {value : α}
    (named : (table.find? fun entry => entry.1.toList == name).map Prod.snd = some value) :
    ∃ entry ∈ table, entry.1.toList = name ∧ entry.2 = value := by
  obtain ⟨entry, found, same⟩ := Option.map_eq_some_iff.mp named
  exact ⟨entry, List.mem_of_find?_eq_some found, by simpa using List.find?_some found, same⟩

/-- The names of options are words, with none of the marks around them. -/
theorem plain_of_settingNamed? {name : Text} {setting : Setting}
    (named : settingNamed? name = some setting) :
    name ≠ [] ∧ '=' ∉ name := by
  have all : ∀ entry ∈ settings, entry.1.toList ≠ [] ∧ '=' ∉ entry.1.toList := by decide
  obtain ⟨entry, member, rfl, -⟩ := exists_entry_of_named named
  exact all entry member

theorem plain_of_switchNamed? {name : Text} {switch : Switch}
    (named : switchNamed? name = some switch) :
    name ≠ [] ∧ '=' ∉ name := by
  have all : ∀ entry ∈ switches, entry.1.toList ≠ [] ∧ '=' ∉ entry.1.toList := by decide
  obtain ⟨entry, member, rfl, -⟩ := exists_entry_of_named named
  exact all entry member

/-- No option is named like a switch. -/
theorem switchNamed?_eq_none {name : Text} {setting : Setting}
    (named : settingNamed? name = some setting) :
    switchNamed? name = none := by
  have all : ∀ entry ∈ settings, switchNamed? entry.1.toList = none := by decide
  obtain ⟨entry, member, rfl, -⟩ := exists_entry_of_named named
  exact all entry member

namespace Options

/-- The arguments of one step, in front of any `--`, and what they make of options. -/
inductive Takes (options : Options) : List Text → Options → Prop
  | assigned {next : Options} {name value : Text} {setting : Setting} :
      settingNamed? name = some setting →
      options.assign setting value = .ok next →
      Takes options ['-' :: '-' :: (name ++ '=' :: value)] next
  | turned {next : Options} {name : Text} {switch : Switch} :
      switchNamed? name = some switch →
      options.turnOn switch = .ok next →
      Takes options ['-' :: '-' :: name] next
  | separate {next : Options} {name value : Text} {setting : Setting} :
      settingNamed? name = some setting →
      isDashed value = false →
      options.assign setting value = .ok next →
      Takes options ['-' :: '-' :: name, value] next
  | cluster {next : Options} {letter : Char} {letters : Text} :
      letter ≠ '-' →
      options.cluster (letter :: letters) = .ok next →
      Takes options ['-' :: letter :: letters] next
  | operand {next : Options} {value : Text} :
      isDashed value = false →
      options.positional value = .ok next →
      Takes options [value] next

/-- What arguments make of options, one step after the other. -/
inductive Reads : Options → List Text → Options → Prop
  | done {options : Options} :
      Reads options [] options
  | operands {options result : Options} {rest : List Text} :
      options.positionals rest = .ok result →
      Reads options (['-', '-'] :: rest) result
  | step {options next result : Options} {front rest : List Text} :
      options.Takes front next →
      Reads next rest result →
      Reads options (front ++ rest) result

section

variable {options result : Options} {arguments rest : List Text}

theorem splitOnce?_assignment {name : Text} {setting : Setting}
    (named : settingNamed? name = some setting) (value : Text) :
    Text.splitOnce? '=' (name ++ '=' :: value) = some (name, value) :=
  Text.splitOnce?_append (plain_of_settingNamed? named).2 value

/-- A long argument is read by whether it holds an equals sign. -/
theorem read_long {long : Text} (nonempty : long ≠ []) :
    options.read (('-' :: '-' :: long) :: rest) =
      match Text.splitOnce? '=' long with
      | some (name, value) =>
          match settingNamed? name with
          | some setting => options.assign setting value >>= fun next => next.read rest
          | none => throw .usage
      | none =>
          match switchNamed? long, settingNamed? long, rest with
          | some switch, _, rest => options.turnOn switch >>= fun next => next.read rest
          | none, none, _ => throw .usage
          | none, some _, [] => throw .usage
          | none, some setting, value :: rest =>
              if isDashed value then
                throw .usage
              else
                options.assign setting value >>= fun next => next.read rest := by
  obtain ⟨c, more, rfl⟩ := List.exists_cons_of_ne_nil nonempty
  rw [read.eq_def]
  rfl

theorem read_cluster {letter : Char} (short : letter ≠ '-') (letters : Text) :
    options.read (('-' :: letter :: letters) :: rest) =
      options.cluster (letter :: letters) >>= fun next => next.read rest := by
  rw [read]
  · exact fun same _ => short same
  · exact short

theorem isDashed_eq_false_iff {value : Text} :
    isDashed value = false ↔ ∀ letter letters, value ≠ '-' :: letter :: letters := by
  unfold isDashed
  match value with
  | [] => simp
  | [c] => simp
  | c :: letter :: letters => simp

theorem read_operand {value : Text} (plain : isDashed value = false) :
    options.read (value :: rest) = options.positional value >>= fun next => next.read rest := by
  have free := isDashed_eq_false_iff.mp plain
  rw [read]
  · exact free '-' []
  · exact fun long => free '-' long
  · exact free

theorem Takes.run {next : Options} {front : List Text} (takes : options.Takes front next) :
    options.read (front ++ rest) = next.read rest := by
  cases takes with
  | @assigned _ name value _ named set =>
      have nonempty : name ++ '=' :: value ≠ [] := by simp
      rw [List.singleton_append, read_long nonempty, splitOnce?_assignment named]
      simp only [named, set, ok_bind]
  | turned named turned =>
      obtain ⟨nonempty, plain⟩ := plain_of_switchNamed? named
      rw [List.singleton_append, read_long nonempty, Text.splitOnce?_eq_none plain]
      simp only [named, turned, ok_bind]
  | separate named undashed set =>
      obtain ⟨nonempty, plain⟩ := plain_of_settingNamed? named
      rw [List.cons_append, read_long nonempty, Text.splitOnce?_eq_none plain]
      simp [named, switchNamed?_eq_none named, undashed, set, ok_bind]
  | cluster short raised =>
      rw [List.singleton_append, read_cluster short, raised, ok_bind]
  | operand plain placed =>
      rw [List.singleton_append, read_operand plain, placed, ok_bind]

theorem Reads.run (reads : Reads options arguments result) :
    options.read arguments = .ok result := by
  induction reads with
  | done => rfl
  | operands placed =>
      rw [read]
      exact placed
  | step takes _ ih => rw [takes.run, ih]

/-- An argument that can be read has one of the shapes of the grammar. -/
theorem Reads.of_read (readable : options.read arguments = .ok result) :
    Reads options arguments result := by
  induction options, arguments using Options.read.induct with
  | case1 options =>
      rw [← Except.ok.inj readable]
      exact .done
  | case2 options rest =>
      rw [read] at readable
      exact .operands readable
  | case3 options rest long long_ne name value split setting named ih =>
      rw [read_long long_ne, split] at readable
      simp only [named] at readable
      obtain ⟨next, set, rest⟩ := bind_eq_ok_iff.mp readable
      rw [(Text.eq_of_splitOnce? split).1]
      exact .step (.assigned named set) (ih next rest)
  | case4 options rest long long_ne name value split unnamed =>
      rw [read_long long_ne, split] at readable
      simp only [unnamed] at readable
      cases readable
  | case5 options long long_ne whole switch rest named ih =>
      rw [read_long long_ne, whole] at readable
      simp only [named] at readable
      obtain ⟨next, turned, rest⟩ := bind_eq_ok_iff.mp readable
      exact .step (.turned named turned) (ih next rest)
  | case6 options rest long long_ne whole unnamed unswitched =>
      rw [read_long long_ne, whole] at readable
      simp only [unnamed, unswitched] at readable
      cases readable
  | case7 options long long_ne whole setting named unswitched =>
      rw [read_long long_ne, whole] at readable
      simp only [named, unswitched] at readable
      cases readable
  | case8 options long long_ne whole setting value rest named unswitched dashed =>
      rw [read_long long_ne, whole] at readable
      simp only [named, unswitched, dashed] at readable
      cases readable
  | case9 options long long_ne whole setting value rest named unswitched undashed ih =>
      rw [read_long long_ne, whole] at readable
      simp only [named, unswitched, undashed] at readable
      obtain ⟨next, set, rest⟩ := bind_eq_ok_iff.mp readable
      exact .step (.separate named (Bool.eq_false_iff.mpr undashed) set) (ih next rest)
  | case10 options rest letter letters _ short ih =>
      rw [read_cluster short] at readable
      obtain ⟨next, raised, rest⟩ := bind_eq_ok_iff.mp readable
      exact .step (.cluster short raised) (ih next rest)
  | case11 options rest value _ _ free ih =>
      have plain : isDashed value = false := isDashed_eq_false_iff.mpr free
      rw [read_operand plain] at readable
      obtain ⟨next, placed, rest⟩ := bind_eq_ok_iff.mp readable
      exact .step (.operand plain placed) (ih next rest)

theorem read_eq_ok_iff : options.read arguments = .ok result ↔ Reads options arguments result :=
  ⟨Reads.of_read, Reads.run⟩

end

end Options

theorem parse_eq_ok_iff {arguments : List Text} {options : Options} {file : Path} :
    parse arguments = .ok (options, file) ↔
      Options.Reads .empty arguments options ∧ options.file = some file ∧
        (options.changed && options.region.isSome) = false := by
  rw [← Options.read_eq_ok_iff, parse, bind_eq_ok_iff]
  constructor
  · rintro ⟨read, readable, rest⟩
    cases named : read.file with
    | none =>
        simp only [named] at rest
        cases rest
    | some path =>
        simp only [named] at rest
        split at rest
        · cases rest
        · rename_i allowed
          cases rest
          exact ⟨readable, named, Bool.eq_false_iff.mpr allowed⟩
  · rintro ⟨readable, named, allowed⟩
    refine ⟨options, readable, ?_⟩
    simp only [named, allowed]
    rfl

end Reformat.CommandLine
