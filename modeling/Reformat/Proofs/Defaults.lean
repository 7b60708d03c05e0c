import Mathlib.Algebra.Order.BigOperators.Group.List
import Mathlib.Algebra.Order.Ring.Nat
import Reformat.Config.Store
import Reformat.Proofs.Encoding
import Reformat.Proofs.Location
import Reformat.Proofs.Tokens
import Reformat.Proofs.Words

/-!
Flags written to a file of defaults and read from it again. Main statement: they come back as they
were just where no value is empty and none holds a blank.
-/

namespace Reformat

namespace Flags

/-- Every value is a word. -/
def Plain (flags : Flags) : Prop :=
  ∀ field value, flags.get field = some value →
    value ≠ [] ∧ ∀ c ∈ value, Text.isBlank c = false

instance (flags : Flags) : Decidable flags.Plain :=
  decidable_of_iff
    (∀ field ∈ Field.all, ∀ value ∈ flags.get field,
      value ≠ [] ∧ value.all (fun c => !Text.isBlank c) = true) <| by
    have all : ∀ field, field ∈ Field.all := by
      intro field
      cases field <;> decide
    simp [Plain, all]

/-- No value holds a blank. -/
def Unbroken (flags : Flags) : Prop :=
  ∀ field value, flags.get field = some value → ∀ c ∈ value, Text.isBlank c = false

/-- The tokens that keep one field. -/
def fieldTokens (flags : Flags) (field : Field) : List Text :=
  (flags.get field).elim [] fun value => field.name :: Text.words value

/-- The tokens that keep flags. -/
def savedTokens (flags : Flags) : List Text :=
  Field.all.flatMap flags.fieldTokens ++ if flags.verbose then ["--verbose".toList] else []

end Flags

namespace Config

open Flags

/-- The tokens of a line. -/
def lineTokens (line : Text) : List Text :=
  if (Text.trim line).head? = some '#' then [] else Text.words line

theorem tokens_eq_flatMap (content : Text) :
    tokens content = (content.splitOn '\n').flatMap lineTokens := by
  have meant : ∀ line, lineTokens line =
      if !(Text.trim line).isEmpty && (Text.trim line).head? != some '#' then
        Text.words (Text.trim line)
      else [] := by
    intro line
    rw [lineTokens, Text.words_trim]
    cases trimmed : Text.trim line with
    | nil =>
        have nothing : Text.words line = [] := by
          rw [← Text.words_trim, trimmed]
          rfl
        simp [nothing]
    | cons c rest => by_cases comment : c = '#' <;> simp [comment]
  unfold tokens
  simp only
  induction content.splitOn '\n' with
  | nil => rfl
  | cons line lines ih =>
      rw [List.map_cons, List.filter_cons, List.flatMap_cons, meant, ← ih]
      split <;> simp

/-- The tokens of a file are words. -/
theorem word_of_mem_tokens {content token : Text} (member : token ∈ tokens content) :
    token ≠ [] ∧ ∀ c ∈ token, Text.isBlank c = false := by
  rw [tokens_eq_flatMap, List.mem_flatMap] at member
  obtain ⟨line, -, within⟩ := member
  unfold lineTokens at within
  split at within
  · cases within
  · exact Text.word_of_mem_words within

theorem isBlank_newline : Text.isBlank '\n' = true := by decide

theorem words_name (field : Field) : Text.words field.name = [field.name] := by
  cases field <;> decide

theorem lineTokens_field (field : Field) (value : Text) :
    lineTokens (field.name ++ ' ' :: value) = field.name :: Text.words value := by
  obtain ⟨rest, dashed⟩ := field.dashes_prefix_name
  have start : (Text.trim (field.name ++ ' ' :: value)).head? = some '-' := by
    rw [← dashed]
    exact Text.head?_trim_cons (by decide) _
  rw [lineTokens, start, if_neg (by decide), Text.words_append_blank (by decide), words_name]
  rfl

/-- Where no value spans lines, each line is read as it was written. -/
theorem splitOn_savedText {flags : Flags} (unbroken : flags.Unbroken) :
    (savedText flags).splitOn '\n' = savedLines flags ++ [[]] := by
  have inside : ∀ line ∈ savedLines flags, '\n' ∉ line := by
    intro line member
    rw [savedLines, List.mem_append, List.mem_cons, List.mem_filterMap] at member
    rcases member with (rfl | ⟨field, -, kept⟩) | switch
    · decide
    · obtain ⟨value, held, rfl⟩ := Option.map_eq_some_iff.mp kept
      have name : '\n' ∉ field.name := by
        cases field <;> decide
      have clear : '\n' ∉ value := by
        intro broken
        have plain := unbroken field value held '\n' broken
        rw [isBlank_newline] at plain
        cases plain
      simp [name, clear]
    · split at switch
      · rw [List.mem_singleton.mp switch]
        decide
      · cases switch
  have some : savedLines flags ≠ [] :=
    List.append_ne_nil_of_left_ne_nil (List.cons_ne_nil _ _) _
  have last : (savedText flags).splitOn '\n' =
      (['\n'].intercalate (savedLines flags)).splitOn '\n' ++ [[]] :=
    List.splitOnP_append_cons (p := (· == '\n')) _ [] rfl
  rw [last, List.splitOn_intercalate '\n' inside some]

theorem tokens_savedText {flags : Flags} (unbroken : flags.Unbroken) :
    tokens (savedText flags) = flags.savedTokens := by
  have comment : lineTokens "# fmtpatch defaults (saved with --save)".toList = [] := by
    decide +kernel
  have fields : ∀ fields : List Field,
      (fields.filterMap fun field =>
        (flags.get field).map fun value => field.name ++ ' ' :: value).flatMap lineTokens =
          fields.flatMap flags.fieldTokens := by
    intro fields
    induction fields with
    | nil => rfl
    | cons field fields ih =>
        rw [List.filterMap_cons, List.flatMap_cons, ← ih, fieldTokens]
        cases flags.get field with
        | none => rfl
        | some value => simp [lineTokens_field]
  have switch : (if flags.verbose then ["--verbose".toList] else []).flatMap lineTokens =
      if flags.verbose then ["--verbose".toList] else [] := by
    split
    · decide +kernel
    · rfl
  have last : lineTokens [] = [] := by decide
  rw [tokens_eq_flatMap, splitOn_savedText unbroken, savedLines, savedTokens, List.flatMap_append,
    List.flatMap_append, List.flatMap_cons, comment, fields, switch, List.flatMap_singleton, last,
    List.nil_append, List.append_nil]

end Config

namespace Flags

/-! ## Reading back what was written -/

/-- The value that a field has in saved flags is put over what it is. -/
def keep (saved flags : Flags) (field : Field) : Flags :=
  (saved.get field).elim flags (flags.set field)

section

variable {saved flags : Flags}

theorem readTokens_fieldTokens (plain : saved.Plain) (fields : List Field) (rest : List Text) :
    flags.readTokens (fields.flatMap saved.fieldTokens ++ rest) =
      (fields.foldl saved.keep flags).readTokens rest := by
  induction fields generalizing flags with
  | nil => rfl
  | cons field fields ih =>
      rw [List.flatMap_cons, List.append_assoc, List.foldl_cons, ← ih, keep, fieldTokens]
      cases held : saved.get field with
      | none => rfl
      | some value =>
          obtain ⟨nonempty, unbroken⟩ := plain field value held
          rw [Option.elim_some, Text.words_plain nonempty unbroken]
          exact readTokens_name

theorem get_foldl_keep (fields : List Field) (field : Field) :
    (fields.foldl saved.keep flags).get field =
      if field ∈ fields then (saved.get field).or (flags.get field) else flags.get field := by
  induction fields generalizing flags with
  | nil => simp
  | cons first fields ih =>
      rw [List.foldl_cons, ih, keep]
      by_cases same : field = first
      · subst same
        cases saved.get field <;> simp [get_set]
      · cases saved.get first <;> simp [get_set, same]

theorem verbose_foldl_keep (fields : List Field) :
    (fields.foldl saved.keep flags).verbose = flags.verbose := by
  induction fields generalizing flags with
  | nil => rfl
  | cons first fields ih =>
      rw [List.foldl_cons, ih, keep]
      cases saved.get first <;> simp

theorem ofTokens_savedTokens (plain : flags.Plain) : ofTokens flags.savedTokens = flags := by
  have fields : ∀ field, (Field.all.foldl flags.keep empty).get field = flags.get field := by
    intro field
    have member : field ∈ Field.all := by cases field <;> decide
    have unset : empty.get field = none := by cases field <;> rfl
    rw [get_foldl_keep, if_pos member, unset, Option.or_none]
  have quiet : (Field.all.foldl flags.keep empty).verbose = false :=
    verbose_foldl_keep Field.all
  rw [ofTokens, savedTokens, readTokens_fieldTokens plain]
  cases verbose : flags.verbose with
  | false => exact ext_get fields (quiet.trans verbose.symm)
  | true =>
      rw [if_pos rfl, readTokens_verbose (by decide)]
      exact ext_get fields verbose.symm

/-! ## Values that do not come back -/

theorem unbroken_ofTokens {tokens : List Text}
    (plain : ∀ token ∈ tokens, ∀ c ∈ token, Text.isBlank c = false) :
    (ofTokens tokens).Unbroken := by
  intro field value held c inside
  rcases suffix_of_get_readTokens held with unset | ⟨token, member, within⟩
  · cases field <;> cases unset
  · exact plain token member c (within.subset inside)

/-- What a token can add to flags. A token that asks to be verbose adds nothing as a value. -/
def weight (token : Text) : Nat :=
  if isVerbose token then 0 else token.length

/-- What a value is worth. An empty one is worth more than the tokens that leave it empty. -/
def worth (value : Text) : Nat :=
  if value = [] then 1 else weight value

/-- The sum over the fields of the length of the name and what the value counts for. -/
def total (count : Text → Nat) (flags : Flags) : Nat :=
  (Field.all.map fun field =>
    (flags.get field).elim 0 fun value => field.name.length + count value).sum

theorem weight_name (field : Field) : weight field.name = field.name.length := by
  rw [weight, field.isVerbose_name]
  rfl

theorem worth_le (value : Text) : worth value ≤ value.length + 1 := by
  rw [worth, weight]
  split
  · exact Nat.le_add_left _ _
  · split
    · exact Nat.zero_le _
    · exact Nat.le_add_right _ _

theorem total_set_le
    (count : Text → Nat) (flags : Flags) (field : Field) (value : Text) :
    total count (flags.set field value) ≤
      total count flags + (field.name.length + count value) := by
  cases field <;> simp [total, Field.all, get_set] <;> omega

theorem total_readTokens_le
    (flags : Flags) {tokens : List Text} (nonempty : ∀ token ∈ tokens, token ≠ []) :
    total worth (flags.readTokens tokens) ≤ total worth flags + (tokens.map weight).sum := by
  induction flags, tokens using readTokens.induct with
  | case1 flags => exact Nat.le_add_right _ _
  | case2 flags token rest verbose ih =>
      have later := ih fun other member => nonempty other (List.mem_cons_of_mem _ member)
      have kept : total worth { flags with verbose := true } = total worth flags := by
        simp only [total, get_heard]
      rw [readTokens_verbose verbose, List.map_cons, List.sum_cons]
      omega
  | case3 flags token rest quiet field value assigned ih =>
      have later := ih fun other member => nonempty other (List.mem_cons_of_mem _ member)
      have set := total_set_le worth flags field value
      have enough : field.name.length + worth value ≤ weight token := by
        have bound := worth_le value
        rw [weight, if_neg quiet, assignment?_eq_some_iff.mp assigned, List.length_append,
          List.length_cons]
        omega
      rw [readTokens_assigned assigned, List.map_cons, List.sum_cons]
      omega
  | case4 flags token quiet unassigned rest unnamed ih =>
      have later := ih fun other member => nonempty other (List.mem_cons_of_mem _ member)
      rw [readTokens_pass quiet unassigned unnamed, List.map_cons, List.sum_cons]
      omega
  | case5 flags token _ _ field named =>
      rw [Field.ofName?_eq_some_iff.mp named, readTokens_last]
      exact Nat.le_add_right _ _
  | case6 flags token _ _ field value rest named ih =>
      have later := ih fun other member => nonempty other (by simp [member])
      have set := total_set_le worth flags field value
      have whole : worth value = weight value := by
        rw [worth, if_neg (nonempty value (by simp))]
      rw [Field.ofName?_eq_some_iff.mp named, readTokens_name, List.map_cons, List.map_cons,
        List.sum_cons, List.sum_cons, weight_name]
      omega

theorem sum_words {value : Text} (plain : ∀ c ∈ value, Text.isBlank c = false) :
    ((Text.words value).map weight).sum = weight value := by
  by_cases empty : value = []
  · subst empty
    decide
  · rw [Text.words_plain empty plain, List.map_singleton, List.sum_singleton]

theorem sum_savedTokens (unbroken : flags.Unbroken) :
    (flags.savedTokens.map weight).sum = total weight flags := by
  have fields : ∀ fields : List Field, ((fields.flatMap flags.fieldTokens).map weight).sum =
      (fields.map fun field =>
        (flags.get field).elim 0 fun value => field.name.length + weight value).sum := by
    intro fields
    induction fields with
    | nil => rfl
    | cons field fields ih =>
        rw [List.flatMap_cons, List.map_append, List.sum_append, List.map_cons, List.sum_cons, ih,
          fieldTokens]
        cases held : flags.get field with
        | none => rfl
        | some value =>
            rw [Option.elim_some, Option.elim_some, List.map_cons, List.sum_cons, weight_name,
              sum_words (unbroken field value held)]
  have switch : ((if flags.verbose then ["--verbose".toList] else []).map weight).sum = 0 := by
    split <;> decide
  rw [savedTokens, List.map_append, List.sum_append, fields, switch]
  rfl

/-- An empty value makes the flags worth more than the tokens that are to keep them. -/
theorem total_weight_lt {field : Field} (held : flags.get field = some []) :
    total weight flags < total worth flags := by
  refine List.sum_lt_sum _ _ (fun other _ => ?_) ⟨field, ?_, ?_⟩
  · cases flags.get other with
    | none => exact Nat.le_refl _
    | some value =>
        have bound : weight value ≤ worth value := by
          rw [worth]
          split
          · rename_i empty
            rw [empty]
            decide
          · exact Nat.le_refl _
        simpa using bound
  · cases field <;> decide
  · rw [held]
    simp [worth, weight]

end

/-- What is saved is read back as it was just where every value is a word. -/
theorem ofTokens_tokens_savedText_iff {flags : Flags} :
    ofTokens (Config.tokens (Config.savedText flags)) = flags ↔ flags.Plain := by
  constructor
  · intro same
    have unbroken : flags.Unbroken :=
      same ▸ unbroken_ofTokens fun token member => (Config.word_of_mem_tokens member).2
    have nonempty : ∀ token ∈ Config.tokens (Config.savedText flags), token ≠ [] :=
      fun token member => (Config.word_of_mem_tokens member).1
    have bound := total_readTokens_le empty nonempty
    have nothing : total worth empty = 0 := by decide
    rw [← ofTokens, same, nothing, Nat.zero_add, Config.tokens_savedText unbroken,
      sum_savedTokens unbroken] at bound
    intro field value held
    refine ⟨?_, unbroken field value held⟩
    rintro rfl
    exact absurd (total_weight_lt held) (Nat.not_lt.mpr bound)
  · intro plain
    have unbroken : flags.Unbroken := fun field value held => (plain field value held).2
    rw [Config.tokens_savedText unbroken, ofTokens_savedTokens plain]

end Flags

namespace Config

/-! ## Files of defaults -/

section

variable {tree kept : Tree} {path : Path} {flags : Flags}

theorem save_eq_ok_iff :
    save tree path flags = (.ok (), kept) ↔
      ∃ made, makeParent tree path = (.ok (), made) ∧
        made.write path (Utf8.encode (savedText flags)) = .ok kept := by
  unfold save
  split
  · rename_i failed
    simp [failed]
  · rename_i made parent
    simp only [parent, Prod.mk.injEq, true_and, exists_eq_left']
    split
    · rename_i written wrote
      simp [wrote]
    · rename_i failed
      simp [failed]

/-- What has been saved is what is loaded, as far as the file can tell. -/
theorem load_of_save (saved : save tree path flags = (.ok (), kept)) :
    load kept path = .ok (Flags.ofTokens (tokens (savedText flags))) := by
  obtain ⟨made, -, written⟩ := save_eq_ok_iff.mp saved
  have back := Tree.read_of_write written
  have text : kept.readText path = .ok (savedText flags) := by
    rw [Tree.readText, back, ok_bind, Utf8.decode?_encode]
    rfl
  rw [load, if_pos (Tree.has_of_read back), text]

theorem keeps_makeParent (tree : Tree) (path : Path) :
    tree.Keeps (makeParent tree path).2 fun _ => True := by
  unfold makeParent
  cases Path.parent? path with
  | none => exact .refl _ _
  | some parent =>
      have keeps := tree.keeps_makeDirectories parent
      revert keeps
      simp only
      cases tree.makeDirectories parent with
      | mk result made => cases result <;> exact id

/-- Saving changes no other file, whether it succeeds or fails. -/
theorem keeps_save (tree : Tree) (path : Path) (flags : Flags) :
    tree.Keeps (save tree path flags).2 (· ≠ tree.named path) := by
  have parent : tree.Keeps (makeParent tree path).2 (· ≠ tree.named path) :=
    (keeps_makeParent tree path).mono fun _ _ => trivial
  have there := parent.named path
  unfold save
  cases made : makeParent tree path with
  | mk result above =>
      rw [made] at parent there
      cases result with
      | error complaint => exact parent
      | ok done =>
          simp only
          cases written : above.write path (Utf8.encode (savedText flags)) with
          | error cause => exact parent
          | ok after =>
              have last := Tree.keeps_write written
              rw [there] at last
              exact parent.trans last

theorem keeps_clear (tree : Tree) (path : Path) :
    tree.Keeps (clear tree path).2 (· ≠ tree.named path) := by
  unfold clear
  split
  · cases removed : tree.remove path with
    | error cause => exact .refl _ _
    | ok after => exact Tree.keeps_remove removed
  · exact .refl _ _

theorem load_of_save_iff (saved : save tree path flags = (.ok (), kept)) :
    load kept path = .ok flags ↔ flags.Plain := by
  rw [load_of_save saved, Except.ok.injEq]
  exact Flags.ofTokens_tokens_savedText_iff

end

end Config

end Reformat
