import Reformat.Config.Flags

/-!
What each token does where flags are read. Main statement: a token that is no option is passed over,
and an option sets its field, whether the value stands behind an equals sign or in the next token.
-/

namespace Reformat.Flags

namespace Field

theorem ofName?_eq_some_iff {name : Text} {field : Field} :
    ofName? name = some field ↔ name = field.name := by
  constructor
  · intro named
    have same : field.name = name := by simpa using List.find?_some named
    exact same.symm
  · rintro rfl
    exact ofName?_name field

theorem equals_not_mem_name (field : Field) : '=' ∉ field.name := by
  cases field <;> decide

theorem dashes_prefix_name (field : Field) : ['-', '-'] <+: field.name := by
  cases field <;> decide

theorem isVerbose_name (field : Field) : isVerbose field.name = false := by
  cases field <;> decide

end Field

section

variable {flags : Flags} {token value : Text} {rest : List Text} {field : Field}

theorem assignment?_eq_some_iff :
    assignment? token = some (field, value) ↔ token = field.name ++ '=' :: value := by
  constructor
  · intro assigned
    unfold assignment? at assigned
    split at assigned
    · rename_i name behind split
      obtain ⟨found, named, same⟩ := Option.map_eq_some_iff.mp assigned
      obtain ⟨rfl, rfl⟩ := Prod.mk.inj same
      rw [← Field.ofName?_eq_some_iff.mp named]
      exact (Text.eq_of_splitOnce? split).1
    · cases assigned
  · rintro rfl
    rw [assignment?, Text.splitOnce?_append field.equals_not_mem_name]
    simp

theorem assignment?_eq_none (plain : '=' ∉ token) : assignment? token = none := by
  rw [Option.eq_none_iff_forall_ne_some]
  rintro ⟨field, value⟩ assigned
  apply plain
  rw [assignment?_eq_some_iff.mp assigned]
  simp

theorem equals_not_mem_of_isVerbose (verbose : isVerbose token = true) : '=' ∉ token := by
  have either : token = "--verbose".toList ∨ token = "-v".toList := by
    simpa [isVerbose] using verbose
  rcases either with rfl | rfl <;> decide

theorem isVerbose_assignment (name value : Text) : isVerbose (name ++ '=' :: value) = false := by
  rw [Bool.eq_false_iff]
  intro verbose
  exact equals_not_mem_of_isVerbose verbose (by simp)

theorem readTokens_cons :
    readTokens flags (token :: rest) =
      if isVerbose token then
        readTokens { flags with verbose := true } rest
      else
        match assignment? token with
        | some (field, value) => readTokens (flags.set field value) rest
        | none =>
            match Field.ofName? token, rest with
            | none, rest => readTokens flags rest
            | some _, [] => flags
            | some field, value :: rest => readTokens (flags.set field value) rest :=
  readTokens.eq_def flags (token :: rest)

theorem readTokens_verbose (verbose : isVerbose token = true) :
    readTokens flags (token :: rest) = readTokens { flags with verbose := true } rest := by
  rw [readTokens_cons, if_pos verbose]

/-- An option with an equals sign sets the field that stands in front of the sign. -/
theorem readTokens_assignment {name : Text} (plain : '=' ∉ name) :
    readTokens flags ((name ++ '=' :: value) :: rest) =
      readTokens ((Field.ofName? name).elim flags fun field => flags.set field value) rest := by
  have unnamed : Field.ofName? (name ++ '=' :: value) = none := by
    rw [Option.eq_none_iff_forall_ne_some]
    intro field named
    apply field.equals_not_mem_name
    rw [← Field.ofName?_eq_some_iff.mp named]
    simp
  have assigned : assignment? (name ++ '=' :: value) =
      (Field.ofName? name).map fun field => (field, value) := by
    rw [assignment?, Text.splitOnce?_append plain]
  rw [readTokens_cons, isVerbose_assignment, assigned, unnamed]
  cases Field.ofName? name <;> rfl

theorem readTokens_name :
    readTokens flags (field.name :: value :: rest) = readTokens (flags.set field value) rest := by
  rw [readTokens_cons, field.isVerbose_name, assignment?_eq_none field.equals_not_mem_name]
  simp

/-- A token that sets no field can only ask to be verbose. -/
theorem readTokens_bare
    (unassigned : assignment? token = none) (unnamed : Field.ofName? token = none) :
    readTokens flags (token :: rest) =
      readTokens { flags with verbose := flags.verbose || isVerbose token } rest := by
  rw [readTokens_cons, unassigned, unnamed]
  split
  · rename_i verbose
    rw [verbose, Bool.or_true]
  · rename_i quiet
    rw [Bool.eq_false_iff.mpr quiet, Bool.or_false]

theorem readTokens_pass
    (quiet : ¬ isVerbose token = true) (unassigned : assignment? token = none)
    (unnamed : Field.ofName? token = none) :
    readTokens flags (token :: rest) = readTokens flags rest := by
  rw [readTokens_bare unassigned unnamed, Bool.eq_false_iff.mpr quiet, Bool.or_false]

/-- Only a token that starts with two dashes can set a field. -/
theorem readTokens_plain (plain : ¬ ['-', '-'] <+: token) :
    readTokens flags (token :: rest) =
      readTokens { flags with verbose := flags.verbose || isVerbose token } rest := by
  apply readTokens_bare
  · rw [Option.eq_none_iff_forall_ne_some]
    rintro ⟨field, value⟩ assigned
    apply plain
    rw [assignment?_eq_some_iff.mp assigned]
    exact field.dashes_prefix_name.trans (List.prefix_append _ _)
  · rw [Option.eq_none_iff_forall_ne_some]
    intro field named
    apply plain
    rw [Field.ofName?_eq_some_iff.mp named]
    exact field.dashes_prefix_name

theorem readTokens_assigned (assigned : assignment? token = some (field, value)) :
    readTokens flags (token :: rest) = readTokens (flags.set field value) rest := by
  rw [assignment?_eq_some_iff.mp assigned, readTokens_assignment field.equals_not_mem_name,
    Field.ofName?_name]
  rfl

theorem readTokens_last : readTokens flags [field.name] = flags := by
  rw [readTokens_cons, field.isVerbose_name, assignment?_eq_none field.equals_not_mem_name]
  simp

/-- An option that needs a value is lost at the end. -/
theorem readTokens_singleton :
    readTokens flags [token] =
      match assignment? token with
      | some (field, value) => flags.set field value
      | none => { flags with verbose := flags.verbose || isVerbose token } := by
  cases assigned : assignment? token with
  | some pair =>
      obtain ⟨field, value⟩ := pair
      rw [readTokens_assigned assigned]
      rfl
  | none =>
      cases named : Field.ofName? token with
      | none =>
          rw [readTokens_bare assigned named]
          rfl
      | some field =>
          rw [Field.ofName?_eq_some_iff.mp named, readTokens_last, field.isVerbose_name,
            Bool.or_false]

theorem get_set (flags : Flags) (field other : Field) (value : Text) :
    (flags.set field value).get other = if other = field then some value else flags.get other := by
  cases field <;> cases other <;> rfl

@[simp]
theorem get_heard (flags : Flags) (verbose : Bool) (field : Field) :
    { flags with verbose }.get field = flags.get field := by
  cases field <;> rfl

@[simp]
theorem verbose_set (flags : Flags) (field : Field) (value : Text) :
    (flags.set field value).verbose = flags.verbose := by
  cases field <;> rfl

theorem set_heard (flags : Flags) (field : Field) (value : Text) (verbose : Bool) :
    { flags with verbose }.set field value = { flags.set field value with verbose } := by
  cases field <;> rfl

/-- Flags are what can be got from them. -/
theorem ext_get {first second : Flags}
    (fields : ∀ field, first.get field = second.get field)
    (verbose : first.verbose = second.verbose) :
    first = second := by
  obtain ⟨_, _, _, _, _, _, _⟩ := first
  obtain ⟨_, _, _, _, _, _, _⟩ := second
  simp only [mk.injEq]
  exact ⟨fields .style, fields .fallbackStyle, fields .revision, fields .formatter, fields .diff,
    fields .git, verbose⟩

theorem set_eq_self_iff : flags.set field value = flags ↔ flags.get field = some value := by
  constructor
  · intro same
    rw [← same, get_set, if_pos rfl]
  · intro given
    apply ext_get
    · intro other
      rw [get_set]
      split
      · rename_i same
        rw [same, given]
      · rfl
    · exact verbose_set flags field value

theorem heard_eq_self_iff {verbose : Bool} :
    { flags with verbose } = flags ↔ verbose = flags.verbose := by
  constructor
  · intro same
    exact congrArg Flags.verbose same
  · rintro rfl
    rfl

theorem set_heard_eq_iff {verbose : Bool} :
    { flags.set field value with verbose } = flags ↔
      verbose = flags.verbose ∧ flags.get field = some value := by
  rw [← set_eq_self_iff]
  constructor
  · intro same
    have heard : verbose = flags.verbose := congrArg Flags.verbose same
    refine ⟨heard, ?_⟩
    rwa [heard, heard_eq_self_iff.mpr (verbose_set flags field value).symm] at same
  · rintro ⟨heard, same⟩
    rw [same, heard]

/-- A value that is read is a token or the end of one. -/
theorem suffix_of_get_readTokens {tokens : List Text} {field : Field} {value : Text}
    (held : (flags.readTokens tokens).get field = some value) :
    flags.get field = some value ∨ ∃ token ∈ tokens, value <:+ token := by
  induction flags, tokens using readTokens.induct with
  | case1 flags => exact .inl held
  | case2 flags token rest verbose ih =>
      rw [readTokens_verbose verbose] at held
      rcases ih held with before | ⟨found, member, within⟩
      · exact .inl (by simpa using before)
      · exact .inr ⟨found, List.mem_cons_of_mem _ member, within⟩
  | case3 flags token rest _ other text assigned ih =>
      rw [readTokens_assigned assigned] at held
      rcases ih held with before | ⟨found, member, within⟩
      · rw [get_set] at before
        split at before
        · obtain rfl := Option.some_inj.mp before
          refine .inr ⟨token, List.mem_cons_self, ?_⟩
          rw [assignment?_eq_some_iff.mp assigned]
          exact (List.suffix_cons '=' text).trans (List.suffix_append other.name _)
        · exact .inl before
      · exact .inr ⟨found, List.mem_cons_of_mem _ member, within⟩
  | case4 flags token quiet unassigned rest unnamed ih =>
      rw [readTokens_pass quiet unassigned unnamed] at held
      rcases ih held with before | ⟨found, member, within⟩
      · exact .inl before
      · exact .inr ⟨found, List.mem_cons_of_mem _ member, within⟩
  | case5 flags token _ _ other named =>
      rw [Field.ofName?_eq_some_iff.mp named, readTokens_last] at held
      exact .inl held
  | case6 flags token _ _ other text rest named ih =>
      rw [Field.ofName?_eq_some_iff.mp named, readTokens_name] at held
      rcases ih held with before | ⟨found, member, within⟩
      · rw [get_set] at before
        split at before
        · obtain rfl := Option.some_inj.mp before
          exact .inr ⟨text, by simp, List.suffix_refl _⟩
        · exact .inl before
      · exact .inr ⟨found, by simp [member], within⟩

end

end Reformat.Flags
