import Mathlib.Data.List.DropRight
import Reformat.Files.Tree
import Reformat.Proofs.Except

/-!
What a path names, and what becomes of the files there and elsewhere. Main statements: what is
written can be read back, what is removed is gone, a file that can be read can be written, and no
change reaches a file at another location.
-/

namespace Reformat.Tree

/-- Where a piece of a path leads from a location. -/
def enter (location : Location) (piece : Text) : Location :=
  if Path.isIdle piece then
    location
  else if piece = ['.', '.'] then
    location.dropLast
  else
    location ++ [piece]

/-- The location that a path names, whether anything is there or not. -/
def named (tree : Tree) (path : Path) : Location :=
  (path.splitOn '/').foldl enter (tree.start path)

def fileAt? (tree : Tree) (location : Location) : Option Bytes :=
  match tree.find? location with
  | some (.file content) => some content
  | _ => none

section

variable {tree after : Tree} {location reached : Location} {piece : Text}
  {front back pieces : List Text} {path : Path}

theorem fileAt?_eq_some_iff {content : Bytes} :
    tree.fileAt? location = some content ↔ tree.find? location = some (.file content) := by
  unfold fileAt?
  split
  · rename_i found
    simp [found]
  · rename_i other
    simp only [reduceCtorEq, false_iff]
    exact other content

/-! ## Walking -/

theorem walk_cons_eq_ok_iff :
    tree.walk location (piece :: pieces) = .ok reached ↔
      tree.find? location = some .directory ∧
      (Path.isIdle piece = true ∨ piece = ['.', '.'] ∨
        (tree.find? (location ++ [piece])).isSome = true) ∧
      tree.walk (enter location piece) pieces = .ok reached := by
  unfold enter
  rw [walk]
  split
  · rename_i missing
    simp [missing, throw_eq_ok_iff]
  · rename_i found
    simp [found, throw_eq_ok_iff]
  · rename_i found
    by_cases idle : Path.isIdle piece = true
    · simp [found, idle]
    · by_cases up : piece = ['.', '.']
      · subst up
        simp [found, idle]
      · by_cases there : (tree.find? (location ++ [piece])).isSome = true
        · simp [found, idle, up, there]
        · by_cases long : Path.isLongName piece = true <;>
            simp [idle, up, there, long, throw_eq_ok_iff]

theorem walk_append_eq_ok_iff :
    tree.walk location (front ++ back) = .ok reached ↔
      ∃ middle, tree.walk location front = .ok middle ∧ tree.walk middle back = .ok reached := by
  induction front generalizing location with
  | nil => simp [walk, pure_eq_ok_iff]
  | cons piece front ih =>
      simp only [List.cons_append, walk_cons_eq_ok_iff, ih]
      constructor
      · rintro ⟨found, opened, middle, first, rest⟩
        exact ⟨middle, ⟨found, opened, first⟩, rest⟩
      · rintro ⟨middle, ⟨found, opened, first⟩, rest⟩
        exact ⟨found, opened, middle, first, rest⟩

theorem eq_foldl_of_walk (walked : tree.walk location pieces = .ok reached) :
    reached = pieces.foldl enter location := by
  induction pieces generalizing location with
  | nil => exact (Except.ok.inj walked).symm
  | cons piece pieces ih =>
      obtain ⟨-, -, rest⟩ := walk_cons_eq_ok_iff.mp walked
      exact ih rest

/-- A walk needs no more than that directories stay directories and nothing goes away. -/
theorem walk_mono
    (directories : ∀ place, tree.find? place = some .directory →
      after.find? place = some .directory)
    (present : ∀ place, (tree.find? place).isSome = true → (after.find? place).isSome = true)
    (walked : tree.walk location pieces = .ok reached) :
    after.walk location pieces = .ok reached := by
  induction pieces generalizing location with
  | nil => exact walked
  | cons piece pieces ih =>
      obtain ⟨found, opened, rest⟩ := walk_cons_eq_ok_iff.mp walked
      refine walk_cons_eq_ok_iff.mpr ⟨directories _ found, ?_, ih rest⟩
      exact opened.imp_right fun opened => opened.imp_right (present _)

/-! ## Entries -/

theorem find?_put_of_free {node : Node} (free : tree.find? location ≠ some .directory)
    (other : Location) :
    (tree.put location node).find? other =
      if other = location then some node else tree.find? other := by
  apply find?_put
  rw [Bool.eq_false_iff]
  intro above
  exact free (by rw [find?, if_pos above])

/-- An entry that takes no directory's place stands in nobody's way. -/
theorem walk_put_of_free {node : Node} (free : tree.find? location ≠ some .directory)
    {start : Location} (walked : tree.walk start pieces = .ok reached) :
    (tree.put location node).walk start pieces = .ok reached := by
  refine walk_mono (fun place opened => ?_) (fun place there => ?_) walked
  · rw [find?_put_of_free free, if_neg, opened]
    rintro rfl
    exact free opened
  · rw [find?_put_of_free free]
    split
    · rfl
    · exact there

theorem lookup_filter_ne {entries : List (Location × Node)} {other : Location}
    (apart : other ≠ location) :
    (entries.filter fun entry => entry.1 ≠ location).lookup other = entries.lookup other := by
  induction entries with
  | nil => rfl
  | cons entry rest ih =>
      obtain ⟨key, node⟩ := entry
      by_cases kept : key = location
      · subst kept
        simp [List.lookup_cons, beq_false_of_ne apart, ← ih]
      · simp [kept, List.lookup_cons, ← ih]

theorem find?_drop_of_ne {other : Location} (apart : other ≠ location) :
    (tree.drop location).find? other = tree.find? other := by
  unfold find? drop
  split
  · rfl
  · exact lookup_filter_ne apart

theorem lookup_filter_self (entries : List (Location × Node)) :
    (entries.filter fun entry => entry.1 ≠ location).lookup location = none := by
  rw [List.lookup_eq_none_iff]
  intro entry member
  have kept := (List.mem_filter.mp member).2
  simp only [decide_eq_true_eq] at kept
  simpa using Ne.symm kept

/-- A file that is dropped is there no longer. Of the working directory that cannot be said. -/
theorem find?_drop_of_file {content : Bytes} (file : tree.find? location = some (.file content)) :
    (tree.drop location).find? location = none := by
  have below : ¬ location.isPrefixOf tree.workingDirectory = true := by
    intro above
    rw [find?, if_pos above] at file
    cases file
  rw [find?, drop, if_neg below]
  exact lookup_filter_self tree.entries

/-- A change that leaves the working directory, and the files at some locations, as they are. -/
structure Keeps (tree after : Tree) (locations : Location → Prop) : Prop where
  directory : after.workingDirectory = tree.workingDirectory
  files : ∀ other, locations other → after.fileAt? other = tree.fileAt? other

theorem Keeps.named {locations : Location → Prop}
    (keeps : Keeps tree after locations) (path : Path) :
    after.named path = tree.named path := by
  rw [Tree.named, start, keeps.directory, Tree.named, start]

theorem Keeps.refl (tree : Tree) (locations : Location → Prop) : Keeps tree tree locations :=
  ⟨rfl, fun _ _ => rfl⟩

theorem Keeps.trans {middle : Tree} {locations : Location → Prop}
    (first : Keeps tree middle locations) (second : Keeps middle after locations) :
    Keeps tree after locations :=
  ⟨second.directory.trans first.directory,
    fun other kept => (second.files other kept).trans (first.files other kept)⟩

theorem Keeps.mono {locations fewer : Location → Prop}
    (keeps : Keeps tree after locations) (inside : ∀ other, fewer other → locations other) :
    Keeps tree after fewer :=
  ⟨keeps.directory, fun other kept => keeps.files other (inside other kept)⟩

theorem keeps_put {node : Node} (free : tree.find? location ≠ some .directory) :
    Keeps tree (tree.put location node) (· ≠ location) := by
  refine ⟨rfl, fun other apart => ?_⟩
  rw [fileAt?, find?_put_of_free free, if_neg apart, fileAt?]

theorem keeps_drop : Keeps tree (tree.drop location) (· ≠ location) := by
  refine ⟨rfl, fun other apart => ?_⟩
  rw [fileAt?, find?_drop_of_ne apart, fileAt?]

/-- A new directory is nowhere where a file was. -/
theorem keeps_put_directory (free : tree.find? location = none) :
    Keeps tree (tree.put location .directory) fun _ => True := by
  have opened : tree.find? location ≠ some .directory := by simp [free]
  refine ⟨rfl, fun other _ => ?_⟩
  by_cases same : other = location
  · rw [fileAt?, find?_put_of_free opened, if_pos same, fileAt?, same, free]
  · exact (keeps_put opened).files other same

/-! ## The last name of a path -/

/-- The pieces of a path without the empty ones behind its last name. -/
def unslashed (path : Path) : List Text :=
  (path.splitOn '/').rdropWhile (·.isEmpty)

theorem ending_eq_ok_iff {ending : Ending} :
    tree.ending path = .ok ending ↔
      path.isEmpty = false ∧ Path.isLong path = false ∧
      tree.walk (tree.start path) (unslashed path).dropLast = .ok ending.directory ∧
      tree.find? ending.directory = some .directory ∧
      ending.name = (unslashed path).getLast?.getD [] ∧
      ending.slashed = decide ((unslashed path).length < (path.splitOn '/').length) := by
  obtain ⟨directory, name, slashed⟩ := ending
  unfold Tree.ending
  simp only [guard_eq_ok_iff, bind_eq_ok_iff, Bool.not_eq_true]
  refine and_congr_right fun _ => and_congr_right fun _ => ?_
  constructor
  · rintro ⟨reached, walked, rest⟩
    split at rest
    · cases rest
    · cases rest
    · rename_i found
      cases rest
      exact ⟨walked, found, rfl, rfl⟩
  · rintro ⟨walked, found, rfl, rfl⟩
    refine ⟨directory, walked, ?_⟩
    simp only [found]
    rfl

/-- The empty pieces at the end lead nowhere. -/
theorem foldl_rdropWhile (pieces : List Text) (location : Location) :
    (pieces.rdropWhile (·.isEmpty)).foldl enter location = pieces.foldl enter location := by
  induction pieces using List.reverseRecOn with
  | nil => rfl
  | append_singleton pieces last ih =>
      by_cases empty : last.isEmpty = true
      · have idle : Path.isIdle last = true := by rw [Path.isIdle, empty, Bool.true_or]
        rw [List.rdropWhile_concat_pos _ _ _ empty, ih, List.foldl_concat, enter, if_pos idle]
      · rw [List.rdropWhile_concat_neg _ _ _ empty]

theorem Ending.location_eq_ok_iff {ending : Ending} :
    ending.location = .ok location ↔
      Path.isLongName ending.name = false ∧ location = ending.directory ++ [ending.name] := by
  unfold Ending.location
  split
  · rename_i long
    simp [long]
  · rename_i short
    simp [short, eq_comm]

/-- A name that names an entry is a piece of the path. -/
theorem unslashed_of_ending {ending : Ending} (found : tree.ending path = .ok ending)
    (plain : ending.isDescription = false) :
    Path.isIdle ending.name = false ∧ ending.name ≠ ['.', '.'] ∧
      ∃ init, unslashed path = init ++ [ending.name] ∧
        tree.walk (tree.start path) init = .ok ending.directory := by
  obtain ⟨-, -, walked, -, last, -⟩ := ending_eq_ok_iff.mp found
  have distinct : Path.isIdle ending.name = false ∧ ending.name ≠ ['.', '.'] := by
    simpa [Ending.isDescription] using plain
  have nonempty : unslashed path ≠ [] := by
    intro none
    rw [none] at last
    rw [last] at distinct
    exact absurd distinct.1 (by decide)
  have name : (unslashed path).getLast nonempty = ending.name := by
    rw [last, List.getLast?_eq_some_getLast nonempty, Option.getD_some]
  refine ⟨distinct.1, distinct.2, (unslashed path).dropLast, ?_, walked⟩
  rw [← name, List.dropLast_append_getLast]

/-- The location of an entry is the one that the path names. -/
theorem eq_named_of_ending {ending : Ending} (found : tree.ending path = .ok ending)
    (plain : ending.isDescription = false) (located : ending.location = .ok location) :
    location = tree.named path := by
  obtain ⟨busy, down, init, split, walked⟩ := unslashed_of_ending found plain
  calc
    location = ending.directory ++ [ending.name] := (Ending.location_eq_ok_iff.mp located).2
    _ = enter ending.directory ending.name := by
      rw [enter, if_neg (by simp [busy]), if_neg down]
    _ = (init ++ [ending.name]).foldl enter (tree.start path) := by
      rw [List.foldl_concat, eq_foldl_of_walk walked]
    _ = (unslashed path).foldl enter (tree.start path) := by rw [split]
    _ = tree.named path := foldl_rdropWhile _ _

/-- A file is written where the last piece of the path names an entry of a directory. -/
theorem target_eq_ok_iff :
    tree.target path = .ok location ↔
      path.isEmpty = false ∧ Path.isLong path = false ∧
      ∃ init name directory, path.splitOn '/' = init ++ [name] ∧
        Path.isIdle name = false ∧ name ≠ ['.', '.'] ∧ Path.isLongName name = false ∧
        tree.walk (tree.start path) init = .ok directory ∧
        tree.find? directory = some .directory ∧ location = directory ++ [name] := by
  unfold target
  simp only [bind_eq_ok_iff, guard_eq_ok_iff]
  constructor
  · rintro ⟨ending, found, clear, located⟩
    simp only [Bool.or_eq_true, not_or, Bool.not_eq_true] at clear
    obtain ⟨nonempty, short, -, directory, -, slashed⟩ := ending_eq_ok_iff.mp found
    obtain ⟨busy, down, init, split, walked⟩ := unslashed_of_ending found clear.1
    obtain ⟨brief, whole⟩ := Ending.location_eq_ok_iff.mp located
    have longest : (path.splitOn '/').length ≤ (unslashed path).length := by
      simpa [clear.2] using slashed
    have unchanged : unslashed path = path.splitOn '/' :=
      (List.rdropWhile_prefix _ _).eq_of_length_le longest
    exact ⟨nonempty, short, init, ending.name, ending.directory, unchanged ▸ split, busy, down,
      brief, walked, directory, whole⟩
  · rintro ⟨nonempty, short, init, name, directory, split, busy, down, brief, walked, found, rfl⟩
    have full : ¬ name.isEmpty = true := by
      intro empty
      rw [Path.isIdle, empty] at busy
      cases busy
    have stripped : unslashed path = init ++ [name] := by
      rw [unslashed, split, List.rdropWhile_concat_neg _ _ _ full]
    refine ⟨⟨directory, name, false⟩, ending_eq_ok_iff.mpr ⟨nonempty, short, ?_, found, ?_, ?_⟩,
      ?_, ?_⟩
    · rw [stripped, List.dropLast_concat]
      exact walked
    · simp [stripped]
    · simp [stripped, split]
    · simp [Ending.isDescription, busy, down]
    · simp [Ending.location, brief]

theorem eq_named_of_target (targeted : tree.target path = .ok location) :
    location = tree.named path := by
  unfold target at targeted
  simp only [bind_eq_ok_iff, guard_eq_ok_iff] at targeted
  obtain ⟨ending, found, clear, located⟩ := targeted
  simp only [Bool.or_eq_true, not_or, Bool.not_eq_true] at clear
  exact eq_named_of_ending found clear.1 located

/-! ## Files -/

theorem locate_eq_ok_iff :
    tree.locate path = .ok location ↔
      path.isEmpty = false ∧ Path.isLong path = false ∧
        tree.walk (tree.start path) (path.splitOn '/') = .ok location := by
  unfold locate
  split
  · rename_i empty
    simp [empty, throw_eq_ok_iff]
  · split
    · rename_i long
      simp [long, throw_eq_ok_iff]
    · rename_i nonempty short
      simp [nonempty, short]

theorem eq_named_of_locate (located : tree.locate path = .ok location) :
    location = tree.named path :=
  eq_foldl_of_walk (locate_eq_ok_iff.mp located).2.2

theorem lookup_eq_ok_iff {node : Node} :
    tree.lookup path = .ok node ↔
      ∃ location, tree.locate path = .ok location ∧ tree.find? location = some node := by
  unfold lookup
  rw [bind_eq_ok_iff]
  refine exists_congr fun location => and_congr_right fun _ => ?_
  split
  · rename_i found
    rw [found, pure_eq_ok_iff, Option.some_inj]
  · rename_i missing
    simp [missing, throw_eq_ok_iff]

theorem read_eq_ok_iff {content : Bytes} :
    tree.read path = .ok content ↔
      ∃ location, tree.locate path = .ok location ∧ tree.fileAt? location = some content := by
  have file : tree.read path = .ok content ↔ tree.lookup path = .ok (.file content) := by
    unfold Tree.read
    rw [bind_eq_ok_iff]
    constructor
    · rintro ⟨node, looked, rest⟩
      cases node with
      | file held => rw [looked, pure_eq_ok_iff.mp rest]
      | directory => cases rest
    · intro looked
      exact ⟨.file content, looked, rfl⟩
  rw [file, lookup_eq_ok_iff]
  simp only [fileAt?_eq_some_iff]

theorem has_of_read {content : Bytes} (readable : tree.read path = .ok content) :
    tree.has path = true := by
  obtain ⟨location, located, found⟩ := read_eq_ok_iff.mp readable
  rw [has, lookup_eq_ok_iff.mpr ⟨location, located, fileAt?_eq_some_iff.mp found⟩]

theorem has_eq_false_of_find? (free : tree.find? (tree.named path) = none) :
    tree.has path = false := by
  have unfound : ∀ node, tree.lookup path ≠ .ok node := by
    intro node looked
    rcases lookup_eq_ok_iff.mp looked with ⟨location, located, found⟩
    rw [eq_named_of_locate located, free] at found
    cases found
  unfold has
  cases looked : tree.lookup path with
  | ok node => exact absurd looked (unfound node)
  | error cause => rfl

theorem write_eq_ok_iff {content : Bytes} :
    tree.write path content = .ok after ↔
      ∃ location, tree.target path = .ok location ∧ tree.find? location ≠ some .directory ∧
        after = tree.put location (.file content) := by
  unfold write
  rw [bind_eq_ok_iff]
  refine exists_congr fun location => and_congr_right fun _ => ?_
  split
  · rename_i found
    simp [found, throw_eq_ok_iff]
  · rename_i free
    rw [pure_eq_ok_iff]
    constructor
    · rintro rfl
      exact ⟨free, rfl⟩
    · rintro ⟨-, rfl⟩
      rfl

theorem keeps_write {content : Bytes} (written : tree.write path content = .ok after) :
    Keeps tree after (· ≠ tree.named path) := by
  obtain ⟨location, targeted, free, rfl⟩ := write_eq_ok_iff.mp written
  rw [← eq_named_of_target targeted]
  exact keeps_put free

theorem fileAt?_of_write {content : Bytes} (written : tree.write path content = .ok after) :
    after.fileAt? (tree.named path) = some content := by
  obtain ⟨location, targeted, free, rfl⟩ := write_eq_ok_iff.mp written
  rw [← eq_named_of_target targeted, fileAt?_eq_some_iff, find?_put_of_free free, if_pos rfl]

/-- What is written is read back. -/
theorem read_of_write {content : Bytes} (written : tree.write path content = .ok after) :
    after.read path = .ok content := by
  obtain ⟨location, targeted, free, rfl⟩ := write_eq_ok_iff.mp written
  obtain ⟨nonempty, short, init, name, directory, split, busy, down, -, walked, found, rfl⟩ :=
    target_eq_ok_iff.mp targeted
  have there : (tree.put (directory ++ [name]) (.file content)).find? (directory ++ [name]) =
      some (.file content) := by
    rw [find?_put_of_free free, if_pos rfl]
  have opened : (tree.put (directory ++ [name]) (.file content)).find? directory =
      some .directory := by
    rw [find?_put_of_free free, if_neg (by simp), found]
  have last : (tree.put (directory ++ [name]) (.file content)).walk directory [name] =
      .ok (directory ++ [name]) := by
    refine walk_cons_eq_ok_iff.mpr ⟨opened, .inr (.inr (by simp [there])), ?_⟩
    rw [enter, if_neg (by simp [busy]), if_neg down]
    rfl
  refine read_eq_ok_iff.mpr ⟨directory ++ [name], locate_eq_ok_iff.mpr ⟨nonempty, short, ?_⟩,
    fileAt?_eq_some_iff.mpr there⟩
  rw [split]
  exact walk_append_eq_ok_iff.mpr ⟨directory, walk_put_of_free free walked, last⟩

/-- Everything above a place that a walk reaches is a directory. -/
theorem directory_above_of_walk
    (walked : tree.walk location pieces = .ok reached)
    (above : ∀ place, place <+: location → place ≠ location → tree.find? place = some .directory) :
    ∀ place, place <+: reached → place ≠ reached → tree.find? place = some .directory := by
  induction pieces generalizing location with
  | nil =>
      rw [← Except.ok.inj walked]
      exact above
  | cons piece pieces ih =>
      obtain ⟨found, -, rest⟩ := walk_cons_eq_ok_iff.mp walked
      refine ih rest fun place inside proper => ?_
      by_cases here : place <+: location
      · by_cases same : place = location
        · rw [same, found]
        · exact above place here same
      · refine absurd ?_ here
        unfold enter at inside proper
        split at inside
        · exact inside
        · split at inside
          · exact inside.trans (List.dropLast_prefix location)
          · rename_i busy down
            rw [if_neg busy, if_neg down] at proper
            exact (List.prefix_concat_iff.mp inside).resolve_left proper

theorem directory_above_start (path : Path) :
    ∀ place, place <+: tree.start path → place ≠ tree.start path →
      tree.find? place = some .directory := by
  intro place inside proper
  unfold start at inside proper
  split at inside
  · rename_i root
    rw [if_pos root] at proper
    exact absurd (List.prefix_nil.mp inside) proper
  · rw [find?, if_pos (List.isPrefixOf_iff_prefix.mpr inside)]

/-- What a file is entered by is its name. -/
theorem plain_of_enter_file {directory : Location} {content : Bytes}
    (walked : tree.walk (tree.start path) pieces = .ok directory)
    (found : tree.find? directory = some .directory)
    (file : tree.find? (enter directory piece) = some (.file content)) :
    Path.isIdle piece = false ∧ piece ≠ ['.', '.'] := by
  unfold enter at file
  split at file
  · rw [found] at file
    cases file
  · rename_i busy
    split at file
    · have up : tree.find? directory.dropLast = some .directory := by
        by_cases same : directory.dropLast = directory
        · rw [same, found]
        · exact directory_above_of_walk walked (directory_above_start path) _
            (List.dropLast_prefix _) same
      rw [up] at file
      cases file
    · rename_i down
      exact ⟨by simpa using busy, down⟩

theorem exists_write_of_read {content : Bytes} (readable : tree.read path = .ok content)
    (short : ∀ name ∈ path.splitOn '/', Path.isLongName name = false) (replacing : Bytes) :
    ∃ after, tree.write path replacing = .ok after := by
  obtain ⟨location, located, held⟩ := read_eq_ok_iff.mp readable
  obtain ⟨nonempty, bounded, walked⟩ := locate_eq_ok_iff.mp located
  obtain ⟨init, last, split⟩ : ∃ init last, path.splitOn '/' = init ++ [last] :=
    (List.eq_nil_or_concat' _).resolve_left (List.splitOnP_ne_nil _ _)
  rw [split] at walked
  obtain ⟨directory, first, second⟩ := walk_append_eq_ok_iff.mp walked
  obtain ⟨found, -, rest⟩ := walk_cons_eq_ok_iff.mp second
  obtain rfl : enter directory last = location := Except.ok.inj rest
  have file := fileAt?_eq_some_iff.mp held
  obtain ⟨busy, down⟩ := plain_of_enter_file first found file
  have targeted : tree.target path = .ok (directory ++ [last]) :=
    target_eq_ok_iff.mpr ⟨nonempty, bounded, init, last, directory, split, busy, down,
      short last (by simp [split]), first, found, rfl⟩
  rw [enter, if_neg (by simp [busy]), if_neg down] at file
  exact ⟨_, write_eq_ok_iff.mpr ⟨directory ++ [last], targeted, by simp [file], rfl⟩⟩

theorem remove_eq_ok_iff :
    tree.remove path = .ok after ↔
      ∃ ending content, tree.ending path = .ok ending ∧ ending.isDescription = false ∧
        ending.slashed = false ∧ ending.location = .ok (tree.named path) ∧
        tree.find? (tree.named path) = some (.file content) ∧
        after = tree.drop (tree.named path) := by
  unfold remove
  simp only [bind_eq_ok_iff, guard_eq_ok_iff]
  constructor
  · rintro ⟨ending, found, plain, location, located, rest⟩
    have named : location = tree.named path :=
      eq_named_of_ending found (by simpa using plain) located
    subst named
    split at rest
    · rename_i content file
      have rest := guard_eq_ok_iff.mp rest
      exact ⟨ending, content, found, by simpa using plain, by simpa using rest.1, located, file,
        (pure_eq_ok_iff.mp rest.2).symm⟩
    · cases rest
    · cases rest
  · rintro ⟨ending, content, found, plain, unslashed, located, file, rfl⟩
    refine ⟨ending, found, by simp [plain], tree.named path, located, ?_⟩
    rw [file]
    exact guard_eq_ok_iff.mpr ⟨by simp [unslashed], rfl⟩

theorem keeps_remove (removed : tree.remove path = .ok after) :
    Keeps tree after (· ≠ tree.named path) := by
  obtain ⟨-, -, -, -, -, -, -, rfl⟩ := remove_eq_ok_iff.mp removed
  exact keeps_drop

theorem has_of_remove (removed : tree.remove path = .ok after) : after.has path = false := by
  rcases remove_eq_ok_iff.mp removed with ⟨-, content, -, -, -, -, file, rfl⟩
  have same : (tree.drop (tree.named path)).named path = tree.named path :=
    keeps_drop.named path
  apply has_eq_false_of_find?
  rw [same]
  exact find?_drop_of_file file

theorem keeps_makeDirectory (made : tree.makeDirectory path = .ok after) :
    Keeps tree after fun _ => True := by
  unfold makeDirectory at made
  simp only [bind_eq_ok_iff, guard_eq_ok_iff] at made
  obtain ⟨ending, found, plain, location, located, free, done⟩ := made
  rw [← pure_eq_ok_iff.mp done]
  exact keeps_put_directory (by simpa using free)

theorem keeps_makeChain (paths : List Path) :
    Keeps tree (tree.makeChain paths).2 fun _ => True := by
  induction paths with
  | nil => exact .refl _ _
  | cons path above ih =>
      unfold makeChain
      split
      · rename_i made
        exact keeps_makeDirectory made
      · split
        · rename_i failed
          rw [failed] at ih
          exact ih
        · rename_i below made
          rw [made] at ih
          split
          · rename_i again
            exact ih.trans (keeps_makeDirectory again)
          · exact ih
      · exact .refl _ _

theorem keeps_makeDirectories (tree : Tree) (path : Path) :
    Keeps tree (tree.makeDirectories path).2 fun _ => True :=
  keeps_makeChain (Path.chain path)

end

end Reformat.Tree
