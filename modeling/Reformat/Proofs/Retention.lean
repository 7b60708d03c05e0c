import Reformat.Proofs.Defaults
import Reformat.Proofs.Settling

/-!
Defaults from one run to the next. Main statement: flags of which every value is a word are in
effect again in a later run that gives none, and no others come back as they were saved.
-/

namespace Reformat

namespace Flags

@[simp]
theorem union_self (flags : Flags) : flags.union flags = flags := by
  simp [union]

end Flags

namespace CommandLine

section

variable {world : Type} {environment : Environment} {options : Options} {given kept : Flags}

/-- Where there is no local file, only what is kept globally and what is given count. -/
theorem Action.eq_of_layered {tree : Tree} {inEffect : Flags}
    (layered : Layered environment options given tree inEffect) (clear : options.clear = false)
    (free : tree.has Config.localPath = false) :
    ∃ kept, Config.load tree (Config.globalPath environment) = .ok kept ∧
      inEffect = kept.union given := by
  rw [Layered, clear] at layered
  obtain ⟨kept, localFlags, foundGlobal, foundLocal, rfl⟩ := layered
  rw [Config.load_of_free free] at foundLocal
  obtain rfl : Flags.empty = localFlags := Except.ok.inj foundLocal
  exact ⟨kept, foundGlobal, by rw [Flags.union_empty]⟩

/-- A run that saves its flags. -/
theorem Action.configure_saves (save : options.save = true) :
    Program.Ensures (fun _ => True)
      (configure environment options given : Action (StateM world) Flags)
      (fun inEffect session =>
        Layered environment options given session.tree inEffect ∧
        ∃ tree, Config.save tree (Config.globalPath environment) given = (.ok (), session.tree))
      (fun _ _ => True) :=
  configure_ensures.mono (fun _ start => start) (fun _ _ settled => ⟨settled.1, settled.2 save⟩)
    fun _ _ failed => failed

/-- A run that only goes by what is kept. -/
theorem Action.configure_loads (start : Session)
    (save : options.save = false) (clear : options.clear = false)
    (loaded : Config.load start.tree (Config.globalPath environment) = .ok kept)
    (free : start.tree.has Config.localPath = false) :
    Program.Ensures (· = start)
      (configure environment options given : Action (StateM world) Flags)
      (fun inEffect session => inEffect = kept.union given ∧ session = start)
      (fun _ _ => False) := by
  refine (configure_reads start save clear loaded (Config.load_of_free free)).mono
    (fun _ same => same) ?_ fun _ _ never => never
  rintro inEffect session ⟨rfl, rfl⟩
  exact ⟨by rw [Flags.union_empty], rfl⟩

end

/-- Flags that are saved are loaded again just where every value is a word. Then a later run that
gives no flags goes by the same ones, unless there is a local file. -/
theorem saved_flags_return_iff {world : Type} (arguments : List Text) :
    (∀ tree path kept, Config.save tree path (Flags.ofTokens arguments) = (.ok (), kept) →
      (Config.load kept path = .ok (Flags.ofTokens arguments) ↔
        (Flags.ofTokens arguments).Plain)) ∧
    ((Flags.ofTokens arguments).Plain →
      ∀ environment options start (present : world) inEffect session after,
        options.save = true →
        Program.on (Action.configure environment options (Flags.ofTokens arguments)) start present =
          ((.ok inEffect, session), after) →
        session.tree.has Config.localPath = false →
        inEffect = Flags.ofTokens arguments ∧
        ∀ others later again (next : world),
          others.save = false → others.clear = false →
          Flags.ofTokens later = Flags.empty → again.tree = session.tree →
          (Program.on (Action.configure environment others (Flags.ofTokens later)) again next).1 =
            (.ok inEffect, again)) := by
  refine ⟨fun tree path kept saved => Config.load_of_save_iff saved, ?_⟩
  intro plain environment options start present inEffect session after save done free
  obtain ⟨layered, tree, saved⟩ := (Action.configure_saves save).of_ok trivial done
  have loaded := (Config.load_of_save_iff saved).mpr plain
  have same : inEffect = Flags.ofTokens arguments := by
    cases clear : options.clear with
    | true =>
        rw [Action.Layered, clear] at layered
        exact layered
    | false =>
        obtain ⟨kept, found, rfl⟩ := Action.eq_of_layered layered clear free
        rw [loaded] at found
        cases found
        exact Flags.union_self _
  refine ⟨same, fun others later again next unsaved uncleared nothing kept => ?_⟩
  rw [← kept] at loaded free
  obtain ⟨found, reached, left, settled, rfl, rfl⟩ :=
    (Action.configure_loads again unsaved uncleared loaded free).exists_ok next rfl
  rw [settled, nothing, Flags.union_empty, same]

/-- A style and the switch, saved by one run and in effect in the next. -/
theorem saved_flags_return_words :
    let arguments := ["--save".toList, "--style=LLVM".toList, "-v".toList, "a.c".toList]
    let flags := Flags.ofTokens arguments
    let environment : Environment := ⟨some "xdg".toList, none⟩
    let start : Session := ⟨Tree.empty [['w']], [], []⟩
    let saved := Config.save start.tree "rc".toList flags
    let run := Program.on
      (Action.configure environment { Options.empty with save := true } flags) start ()
    saved.1 = .ok () ∧ Config.load saved.2 "rc".toList = .ok flags ∧
      run.1.1 = .ok flags ∧
      (Program.on (Action.configure environment .empty (Flags.ofTokens ["a.c".toList]))
        run.1.2 ()).1 = (.ok flags, run.1.2) := by
  intro arguments flags environment start saved run
  have plain : flags.Plain := by decide +kernel
  have accepted : saved.1 = .ok () := by decide +kernel
  have settled : run.1.1 = .ok flags := by decide +kernel
  have free : run.1.2.tree.has Config.localPath = false := by decide +kernel
  have nothing : Flags.ofTokens ["a.c".toList] = Flags.empty := by decide +kernel
  have saves : Config.save start.tree "rc".toList flags = saved := rfl
  have first : Program.on
      (Action.configure environment { Options.empty with save := true } flags) start () = run := rfl
  -- From here on, only what has been said about them counts.
  clear_value saved run
  obtain ⟨result, kept⟩ := saved
  obtain ⟨⟨inEffect, session⟩, ⟨⟩⟩ := run
  obtain rfl : result = .ok () := accepted
  obtain rfl : inEffect = .ok flags := settled
  obtain ⟨loads, later⟩ := @saved_flags_return_iff Unit arguments
  obtain ⟨-, again⟩ := later plain environment _ start () flags session () rfl first free
  exact ⟨rfl, (loads start.tree "rc".toList kept saves).mpr plain, rfl,
    again .empty ["a.c".toList] session () rfl rfl nothing rfl⟩

/-- A style of several words is cut short where it is read. -/
theorem saved_flags_lose_words :
    let arguments := ["--save".toList, "--style".toList,
      "\x7bBasedOnStyle: LLVM, IndentWidth: 8\x7d".toList, "a.c".toList]
    let flags := Flags.ofTokens arguments
    let saved := Config.save (Tree.empty [['w']]) "rc".toList flags
    (parse arguments).isOk = true ∧ saved.1 = .ok () ∧
      Config.load saved.2 "rc".toList =
        .ok { Flags.empty with style := some "\x7bBasedOnStyle:".toList } ∧
      Config.load saved.2 "rc".toList ≠ .ok flags := by
  decide +kernel

end CommandLine

end Reformat
