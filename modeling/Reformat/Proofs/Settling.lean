import Reformat.CommandLine.Run
import Reformat.Proofs.Program

/-!
The part of a run that settles the flags it goes by. Main statement: settling the flags is clearing
and saving as asked, and then putting what was given on what is kept.
-/

namespace Reformat

theorem Config.load_of_free {tree : Tree} {path : Path} (free : tree.has path = false) :
    load tree path = .ok .empty := by
  rw [load, free]
  rfl

namespace CommandLine.Action

variable {world : Type}

section

variable (environment : Environment) (options : Options) (given : Flags)

def clearing : Action (StateM world) Unit :=
  if options.clear then do
    change (Config.clear (← get).tree (Config.globalPath environment))
  else
    return ()

def saving : Action (StateM world) Unit :=
  if options.save then do
    change (Config.save (← get).tree (Config.globalPath environment) given)
  else
    return ()

/-- The flags kept globally and locally with those given on top. After clearing, none are kept. -/
def layering : Action (StateM world) Flags :=
  if options.clear then
    return Flags.empty.union given
  else do
    let globalFlags ← load (Config.globalPath environment)
    let localFlags ← load Config.localPath
    return (globalFlags.union localFlags).union given

theorem configure_eq :
    configure environment options given =
      (do
        clearing environment options
        saving environment options given
        layering environment options given : Action (StateM world) Flags) := by
  unfold configure clearing saving layering
  cases options.clear <;> cases options.save <;> rfl

end

section

variable {pre : Session → Prop} {fails : Complaint → Session → Prop}

theorem change_ensures
    {changed : Except Config.Complaint Unit × Tree} {returns : Unit → Session → Prop}
    (done : ∀ session, pre session → changed.1 = .ok () →
      returns () { session with tree := changed.2 })
    (failed : ∀ session cause, pre session → changed.1 = .error cause →
      fails (.config cause) { session with tree := changed.2 }) :
    Program.Ensures pre (change changed : Action (StateM world) Unit) returns fails := by
  obtain ⟨result, tree⟩ := changed
  cases result with
  | ok value => exact fun session _ holds => done session holds rfl
  | error cause => exact fun session _ holds => failed session cause holds rfl

theorem load_ensures (path : Path)
    (failed : ∀ session cause, pre session → Config.load session.tree path = .error cause →
      fails (.config cause) session) :
    Program.Ensures pre (load path : Action (StateM world) Flags)
      (fun flags session => Config.load session.tree path = .ok flags ∧ pre session) fails := by
  refine .bind .get fun session => ?_
  cases loaded : Config.load session.tree path with
  | ok flags =>
      refine .pure fun state holds => ?_
      obtain ⟨rfl, start⟩ := holds
      exact ⟨loaded, start⟩
  | error cause =>
      refine .throw fun state holds => ?_
      obtain ⟨rfl, start⟩ := holds
      exact failed session cause start loaded

/-- What is kept in the two files, put on one another. -/
def Layered (environment : Environment) (options : Options) (given : Flags) (tree : Tree)
    (inEffect : Flags) : Prop :=
  if options.clear then
    inEffect = given
  else
    ∃ globalFlags localFlags,
      Config.load tree (Config.globalPath environment) = .ok globalFlags ∧
      Config.load tree Config.localPath = .ok localFlags ∧
      inEffect = (globalFlags.union localFlags).union given

theorem Layered.eq_union {environment : Environment} {options : Options} {tree : Tree}
    {given inEffect globalFlags localFlags : Flags}
    (layered : Layered environment options given tree inEffect) (clear : options.clear = false)
    (foundGlobal : Config.load tree (Config.globalPath environment) = .ok globalFlags)
    (foundLocal : Config.load tree Config.localPath = .ok localFlags) :
    inEffect = (globalFlags.union localFlags).union given := by
  rw [Layered, clear] at layered
  obtain ⟨_, _, loadedGlobal, loadedLocal, rfl⟩ := layered
  rw [foundGlobal] at loadedGlobal
  rw [foundLocal] at loadedLocal
  cases loadedGlobal
  cases loadedLocal
  rfl

theorem layering_ensures {environment : Environment} {options : Options} {given : Flags}
    (failed : ∀ session cause, pre session → options.clear = false →
      (Config.load session.tree (Config.globalPath environment) = .error cause ∨
        Config.load session.tree Config.localPath = .error cause) →
      fails (.config cause) session) :
    Program.Ensures pre
      (layering environment options given : Action (StateM world) Flags)
      (fun inEffect session =>
        Layered environment options given session.tree inEffect ∧ pre session)
      fails := by
  unfold layering Layered
  cases clear : options.clear with
  | true => exact .pure fun session holds => ⟨Flags.empty_union given, holds⟩
  | false =>
      refine .bind (load_ensures _ ?_) fun globalFlags =>
        .bind (load_ensures _ ?_) fun localFlags => .pure ?_
      · exact fun session cause holds broken => failed session cause holds clear (.inl broken)
      · exact fun session cause holds broken => failed session cause holds.2 clear (.inr broken)
      · rintro session ⟨foundLocal, foundGlobal, holds⟩
        exact ⟨⟨globalFlags, localFlags, foundGlobal, foundLocal, rfl⟩, holds⟩

theorem saving_ensures {environment : Environment} {options : Options} {given : Flags} :
    Program.Ensures (fun _ => True)
      (saving environment options given : Action (StateM world) Unit)
      (fun _ session => options.save = true → ∃ tree,
        Config.save tree (Config.globalPath environment) given = (.ok (), session.tree))
      (fun _ _ => True) := by
  unfold saving
  cases save : options.save with
  | false => exact .pure fun session _ saved => absurd saved Bool.false_ne_true
  | true =>
      refine .bind .get fun session => change_ensures ?_ ?_
      · intro state _ saved _
        exact ⟨session.tree, Prod.ext saved rfl⟩
      · exact fun _ _ _ _ => trivial

/-- A run that settles its flags has saved those that were given, if it was to. -/
theorem configure_ensures {environment : Environment} {options : Options} {given : Flags} :
    Program.Ensures (fun _ => True)
      (configure environment options given : Action (StateM world) Flags)
      (fun inEffect session =>
        Layered environment options given session.tree inEffect ∧
        (options.save = true → ∃ tree,
          Config.save tree (Config.globalPath environment) given = (.ok (), session.tree)))
      (fun _ _ => True) := by
  rw [configure_eq]
  exact .bind .anything fun _ => .bind saving_ensures fun _ =>
    layering_ensures fun _ _ _ _ _ => trivial

/-- A run that only goes by what is kept and given. -/
theorem configure_reads {environment : Environment} {options : Options}
    {given globalFlags localFlags : Flags} (start : Session)
    (save : options.save = false) (clear : options.clear = false)
    (foundGlobal : Config.load start.tree (Config.globalPath environment) = .ok globalFlags)
    (foundLocal : Config.load start.tree Config.localPath = .ok localFlags) :
    Program.Ensures (· = start)
      (configure environment options given : Action (StateM world) Flags)
      (fun inEffect session =>
        inEffect = (globalFlags.union localFlags).union given ∧ session = start)
      (fun _ _ => False) := by
  have layers : Program.Ensures (· = start)
      (layering environment options given : Action (StateM world) Flags)
      (fun inEffect session =>
        Layered environment options given session.tree inEffect ∧ session = start)
      (fun _ _ => False) := by
    refine layering_ensures ?_
    rintro session cause rfl - (failed | failed)
    · rw [foundGlobal] at failed
      cases failed
    · rw [foundLocal] at failed
      cases failed
  rw [configure_eq, clearing, saving, clear, save]
  refine .bind (.pure fun _ same => same) fun _ => .bind (.pure fun _ same => same) fun _ =>
    layers.mono (fun _ same => same) ?_ fun _ _ never => never
  rintro inEffect session ⟨layered, rfl⟩
  exact ⟨layered.eq_union clear foundGlobal foundLocal, rfl⟩

end

end CommandLine.Action

end Reformat
