import Mathlib.Data.List.Basic
import Reformat.Proofs.Settling
import Reformat.Proofs.Tokens

/-!
Layers of flags. Main statements: tokens may be read in two parts, and the second laid on the first,
just where the first does not end with an option that misses its value; and of several layers, the
last one that gives an option counts, however they are grouped.
-/

namespace Reformat

namespace Flags

/-! ## Tokens in two parts -/

/-- The option that still misses its value when the tokens have been read from left to right. -/
def awaited? : List Text → Option Field
  | [] => none
  | token :: rest =>
      match Field.ofName? token, rest with
      | none, rest => awaited? rest
      | some field, [] => some field
      | some _, _ :: rest => awaited? rest

/-- Reads on, where an option may still miss its value. -/
def resume (flags : Flags) : Option Field → List Text → Flags
  | none, tokens => flags.readTokens tokens
  | some _, [] => flags
  | some field, value :: rest => (flags.set field value).readTokens rest

section

variable {base flags : Flags} {token value : Text} {first rest : List Text} {field : Field}

theorem awaited?_of_unnamed (unnamed : Field.ofName? token = none) :
    awaited? (token :: rest) = awaited? rest := by
  rw [awaited?.eq_def]
  simp only [unnamed]

theorem awaited?_name : awaited? (field.name :: value :: rest) = awaited? rest := by
  rw [awaited?.eq_def]
  simp only [Field.ofName?_name]

theorem awaited?_last : awaited? [field.name] = some field := by
  rw [awaited?.eq_def]
  simp only [Field.ofName?_name]

theorem ofName?_of_isVerbose (verbose : isVerbose token = true) : Field.ofName? token = none := by
  rw [Option.eq_none_iff_forall_ne_some]
  intro field named
  rw [Field.ofName?_eq_some_iff.mp named, field.isVerbose_name] at verbose
  cases verbose

theorem ofName?_of_assigned (assigned : assignment? token = some (field, value)) :
    Field.ofName? token = none := by
  rw [Option.eq_none_iff_forall_ne_some]
  intro other named
  rw [Field.ofName?_eq_some_iff.mp named,
    assignment?_eq_none other.equals_not_mem_name] at assigned
  cases assigned

/-- Reading tokens is reading the first of them and going on with the others. -/
theorem readTokens_append (flags : Flags) (first second : List Text) :
    flags.readTokens (first ++ second) =
      (flags.readTokens first).resume (awaited? first) second := by
  induction flags, first using readTokens.induct with
  | case1 flags => rfl
  | case2 flags token rest verbose ih =>
      rw [List.cons_append, readTokens_verbose verbose, ih, readTokens_verbose verbose,
        awaited?_of_unnamed (ofName?_of_isVerbose verbose)]
  | case3 flags token rest _ field value assigned ih =>
      rw [List.cons_append, readTokens_assigned assigned, ih, readTokens_assigned assigned,
        awaited?_of_unnamed (ofName?_of_assigned assigned)]
  | case4 flags token quiet unassigned rest unnamed ih =>
      rw [List.cons_append, readTokens_pass quiet unassigned unnamed, ih,
        readTokens_pass quiet unassigned unnamed, awaited?_of_unnamed unnamed]
  | case5 flags token _ _ field named =>
      rw [Field.ofName?_eq_some_iff.mp named, awaited?_last, readTokens_last]
      cases second with
      | nil => exact readTokens_last
      | cons value rest => exact readTokens_name
  | case6 flags token _ _ field value rest named ih =>
      rw [Field.ofName?_eq_some_iff.mp named, List.cons_append, List.cons_append, readTokens_name,
        ih, readTokens_name, awaited?_name]

theorem union_set (base flags : Flags) (field : Field) (value : Text) :
    base.union (flags.set field value) = (base.union flags).set field value := by
  cases field <;> rfl

theorem union_heard (base flags : Flags) :
    base.union { flags with verbose := true } = { base.union flags with verbose := true } := by
  simp [union]

/-- What is read is laid on what was there before. -/
theorem union_readTokens (base flags : Flags) (tokens : List Text) :
    base.union (flags.readTokens tokens) = (base.union flags).readTokens tokens := by
  induction flags, tokens using readTokens.induct with
  | case1 flags => rfl
  | case2 flags token rest verbose ih =>
      rw [readTokens_verbose verbose, ih, readTokens_verbose verbose, union_heard]
  | case3 flags token rest _ field value assigned ih =>
      rw [readTokens_assigned assigned, ih, readTokens_assigned assigned, union_set]
  | case4 flags token quiet unassigned rest unnamed ih =>
      rw [readTokens_pass quiet unassigned unnamed, ih, readTokens_pass quiet unassigned unnamed]
  | case5 flags token _ _ field named =>
      rw [Field.ofName?_eq_some_iff.mp named, readTokens_last, readTokens_last]
  | case6 flags token _ _ field value rest named ih =>
      rw [Field.ofName?_eq_some_iff.mp named, readTokens_name, ih, readTokens_name, union_set]

theorem readTokens_eq_union (flags : Flags) (tokens : List Text) :
    flags.readTokens tokens = flags.union (ofTokens tokens) := by
  rw [ofTokens, union_readTokens, union_empty]

theorem ofTokens_append (complete : awaited? first = none) (second : List Text) :
    ofTokens (first ++ second) = (ofTokens first).union (ofTokens second) := by
  rw [ofTokens, readTokens_append, complete]
  exact readTokens_eq_union _ _

theorem awaited?_eq_none_of_append
    (law : ∀ second, ofTokens (first ++ second) = (ofTokens first).union (ofTokens second)) :
    awaited? first = none := by
  cases waiting : awaited? first with
  | none => rfl
  | some field =>
      -- a token that says nothing by itself would have to be the value already, and two of them
      -- cannot both be
      have held : ∀ value, ofTokens [value] = empty →
          (ofTokens first).get field = some value := by
        intro value plain
        have taken := law [value]
        rw [plain, union_empty, ofTokens, readTokens_append, waiting] at taken
        exact set_eq_self_iff.mp taken
      have one := held ['x'] (by decide)
      have other := held ['y'] (by decide)
      rw [one] at other
      exact absurd other (by decide)

end

/-! ## Several layers -/

/-- Each layer on top of those in front of it. -/
def overlay (layers : List Flags) : Flags :=
  layers.foldl union empty

section

variable (layer : Flags) (layers : List Flags)

theorem foldl_union (base : Flags) : layers.foldl union base = base.union (overlay layers) := by
  induction layers generalizing base with
  | nil => exact (union_empty base).symm
  | cons layer rest ih =>
      rw [overlay, List.foldl_cons, List.foldl_cons, ih, ih (empty.union layer), empty_union,
        union_assoc]

theorem overlay_cons : overlay (layer :: layers) = layer.union (overlay layers) := by
  rw [overlay, List.foldl_cons, foldl_union, empty_union]

theorem overlay_append (lower upper : List Flags) :
    overlay (lower ++ upper) = (overlay lower).union (overlay upper) := by
  rw [overlay, List.foldl_append, foldl_union]
  rfl

theorem overlay_eq_foldr : overlay layers = layers.foldr union empty := by
  induction layers with
  | nil => rfl
  | cons layer rest ih => rw [overlay_cons, List.foldr_cons, ih]

/-- Layers may be put together in groups. -/
theorem overlay_flatten (groups : List (List Flags)) :
    overlay groups.flatten = overlay (groups.map overlay) := by
  induction groups with
  | nil => rfl
  | cons group rest ih =>
      rw [List.flatten_cons, overlay_append, ih, List.map_cons, overlay_cons]

theorem get_union (lower upper : Flags) (field : Field) :
    (lower.union upper).get field = (upper.get field).or (lower.get field) := by
  cases field <;> rfl

/-- The last layer that gives an option counts. -/
theorem get_overlay (field : Field) :
    (overlay layers).get field = (layers.filterMap fun layer => layer.get field).getLast? := by
  induction layers with
  | nil => cases field <;> rfl
  | cons layer rest ih =>
      rw [overlay_cons, get_union, ih]
      cases given : layer.get field with
      | none => simp [given]
      | some value =>
          have found : (layer :: rest).filterMap (fun layer => layer.get field) =
              value :: rest.filterMap fun layer => layer.get field :=
            List.filterMap_cons_some given
          rw [found, List.getLast?_cons]
          cases (rest.filterMap fun layer => layer.get field).getLast? <;> rfl

theorem verbose_overlay : (overlay layers).verbose = layers.any Flags.verbose := by
  induction layers with
  | nil => rfl
  | cons layer rest ih =>
      rw [overlay_cons, List.any_cons, ← ih]
      rfl

end

end Flags

/-! ## The flags of a run -/

namespace Config

/-- The tokens that are kept in a file of defaults; there are none where there is no file. -/
inductive Kept (tree : Tree) (path : Path) : List Text → Prop where
  | absent
      (free : tree.has path = false) :
      Kept tree path []
  | file {content : Text}
      (there : tree.has path = true)
      (read : tree.readText path = .ok content) :
      Kept tree path (tokens content)

theorem Kept.load_eq {tree : Tree} {path : Path} {found : List Text}
    (kept : Kept tree path found) : load tree path = .ok (Flags.ofTokens found) := by
  cases kept with
  | absent free => exact load_of_free free
  | file there read => rw [load, if_pos there, read]

end Config

namespace CommandLine

/-- To lay flags on flags is to read their tokens one after the other, just where the lower ones do
not end with an option that misses its value; so the flags in effect are those of all tokens in the
two files and on the command line. Any number of layers may be put together in groups; the last
value that is given counts, and any layer makes the result verbose. -/
theorem layering_is_concatenation {world : Type} :
    (∀ first,
      (∀ second, Flags.ofTokens (first ++ second) =
        (Flags.ofTokens first).union (Flags.ofTokens second)) ↔
      Flags.awaited? first = none) ∧
    (∀ environment options (tree : Tree) arguments globalTokens localTokens,
      options.clear = false →
      Config.Kept tree (Config.globalPath environment) globalTokens →
      Config.Kept tree Config.localPath localTokens →
      Flags.awaited? globalTokens = none → Flags.awaited? localTokens = none →
      let together := Flags.ofTokens (globalTokens ++ localTokens ++ arguments)
      (∀ start (present : world), start.tree = tree → options.save = false →
        (Program.on (Action.configure environment options (Flags.ofTokens arguments)) start
          present).1 = (.ok together, start)) ∧
      ∀ start (present : world) inEffect session later, session.tree = tree →
        Program.on (Action.configure environment options (Flags.ofTokens arguments)) start present =
          ((.ok inEffect, session), later) →
        inEffect = together) ∧
    (∀ groups : List (List Flags),
      Flags.overlay groups.flatten = Flags.overlay (groups.map Flags.overlay)) ∧
    ∀ layers : List Flags,
      layers.foldl Flags.union Flags.empty = layers.foldr Flags.union Flags.empty ∧
      (∀ field, (Flags.overlay layers).get field =
        (layers.filterMap fun layer => layer.get field).getLast?) ∧
      (Flags.overlay layers).verbose = layers.any Flags.verbose := by
  refine ⟨fun first => ⟨Flags.awaited?_eq_none_of_append, Flags.ofTokens_append⟩, ?_,
    Flags.overlay_flatten, fun layers => ⟨Flags.overlay_eq_foldr layers,
      Flags.get_overlay layers, Flags.verbose_overlay layers⟩⟩
  intro environment options tree arguments globalTokens localTokens clear globalKept localKept
    globalComplete localComplete together
  have law : ((Flags.ofTokens globalTokens).union (Flags.ofTokens localTokens)).union
      (Flags.ofTokens arguments) = together := by
    rw [Flags.union_assoc, ← Flags.ofTokens_append localComplete,
      ← Flags.ofTokens_append globalComplete, ← List.append_assoc]
  refine ⟨?_, ?_⟩
  · rintro start present rfl save
    obtain ⟨inEffect, session, later, settled, rfl, rfl⟩ :=
      (Action.configure_reads start save clear globalKept.load_eq localKept.load_eq).exists_ok
        present rfl
    rw [settled, law]
  · rintro start present inEffect session later rfl done
    obtain ⟨layered, -⟩ := Action.configure_ensures.of_ok trivial done
    rw [← law]
    exact layered.eq_union clear globalKept.load_eq localKept.load_eq

/-- A global file in which an option takes a switch for its value, a local one and a command line.
Where the first tokens end with an option, it takes the next one, whatever that is. -/
theorem layering_is_concatenation_lookahead :
    let environment : Environment := ⟨some "xdg".toList, none⟩
    let globalText := "# kept\n--style --verbose\n--git=g\n".toList
    let localText := "--style=GNU --diff d".toList
    let arguments := ["-v".toList, "--git".toList, "--style".toList, "a.c".toList]
    let place := [['w'], "xdg".toList, "fmtpatch".toList, "config".toList]
    let tree : Tree := ⟨[['w']],
      [(place.take 2, .directory), (place.take 3, .directory),
        (place, .file (Utf8.encode globalText)),
        ([['w'], ".fmtpatchrc".toList], .file (Utf8.encode localText))]⟩
    let inEffect : Flags :=
      ⟨some "GNU".toList, none, none, none, some ['d'], some "--style".toList, true⟩
    let run := Program.on
      (Action.configure environment .empty (Flags.ofTokens arguments)) ⟨tree, [], []⟩ ()
    run.1 = (.ok inEffect, ⟨tree, [], []⟩) ∧
      Flags.ofTokens
          (["--style".toList, "--verbose".toList, "--git=g".toList] ++
            ["--style=GNU".toList, "--diff".toList, ['d']] ++ arguments) =
        inEffect ∧
      Flags.awaited? ["--git=g".toList, "--style".toList] = some .style ∧
      ¬ ∀ second, Flags.ofTokens (["--git=g".toList, "--style".toList] ++ second) =
        (Flags.ofTokens ["--git=g".toList, "--style".toList]).union (Flags.ofTokens second) := by
  intro environment globalText localText arguments place tree inEffect run
  have read : Flags.ofTokens
      (["--style".toList, "--verbose".toList, "--git=g".toList] ++
        ["--style=GNU".toList, "--diff".toList, ['d']] ++ arguments) = inEffect := by
    decide +kernel
  have globalKept : Config.Kept tree (Config.globalPath environment)
      ["--style".toList, "--verbose".toList, "--git=g".toList] := by
    have words : Config.tokens globalText =
        ["--style".toList, "--verbose".toList, "--git=g".toList] := by
      decide +kernel
    rw [← words]
    exact .file (by decide +kernel) (by decide +kernel)
  have localKept : Config.Kept tree Config.localPath
      ["--style=GNU".toList, "--diff".toList, ['d']] := by
    have words : Config.tokens localText = ["--style=GNU".toList, "--diff".toList, ['d']] := by
      decide +kernel
    rw [← words]
    exact .file (by decide +kernel) (by decide +kernel)
  obtain ⟨law, concatenated, -⟩ := @layering_is_concatenation Unit
  obtain ⟨total, -⟩ := concatenated environment .empty tree arguments _ _ rfl globalKept localKept
    (by decide +kernel) (by decide +kernel)
  have settled := total ⟨tree, [], []⟩ () rfl rfl
  rw [read] at settled
  have awaits : Flags.awaited? ["--git=g".toList, "--style".toList] = some .style := by
    decide +kernel
  refine ⟨settled, read, awaits, ?_⟩
  rw [law, awaits]
  exact Option.some_ne_none _

end CommandLine

end Reformat
