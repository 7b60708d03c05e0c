import Reformat.Proofs.Defaults
import Reformat.Proofs.Loading
import Reformat.Proofs.Marking
import Reformat.Proofs.Settling
import Reformat.Proofs.Tools

/-!
What becomes of the file that a run is about. Main statement: a run that fails leaves it alone and
prints nothing, one that prints leaves it alone as well, and one that writes it in place succeeds
just where the one that prints does, and then the file holds what that one prints.
-/

namespace Reformat

namespace CommandLine

/-- A run has neither changed the file at a location nor printed anything. -/
structure Untouched (place : Location) (held : Option Bytes) (session : Session) : Prop where
  file : session.tree.fileAt? place = held
  output : session.output = []

/-- The file may be looked for: it lies at a location that is not the one of the defaults. -/
structure Unopened (environment : Environment) (path : Path) (place : Location)
    (held : Option Bytes) (session : Session) : Prop extends Untouched place held session where
  named : session.tree.named path = place
  apart : session.tree.named (Config.globalPath environment) ≠ place

/-- The file has been found at its location. -/
structure Opened (path : Path) (place : Location) (held : Option Bytes)
    (session : Session) : Prop extends Untouched place held session where
  found : session.tree.locate path = .ok place

/-- The document that is to be delivered. Where it has no mark, it is what the file holds. -/
structure Ready (path : Path) (place : Location) (held : Option Bytes) (document : Document)
    (session : Session) : Prop extends Opened path place held session where
  full : held.isSome = true
  clean : document.dirty = false → held = some (Utf8.encode document.hostText)

section

variable {world : Type} {environment : Environment} {options : Options} {given : Flags}
  {file : Path} {place : Location} {held : Option Bytes} {session : Session}

theorem Ready.said {document : Document} {messages : Text}
    (ready : Ready file place held document session) :
    Ready file place held document { session with messages := messages } :=
  ⟨⟨⟨ready.file, ready.output⟩, ready.found⟩, ready.full, ready.clean⟩

/-! ## Settling the flags -/

theorem Unopened.changed {after : Tree}
    (unopened : Unopened environment file place held session)
    (keeps : session.tree.Keeps after (· ≠ session.tree.named (Config.globalPath environment))) :
    Unopened environment file place held { session with tree := after } where
  file := (keeps.files place (Ne.symm unopened.apart)).trans unopened.file
  output := unopened.output
  named := (keeps.named file).trans unopened.named
  apart := by
    rw [keeps.named]
    exact unopened.apart

theorem Action.change_keeps (revise : Tree → Except Config.Complaint Unit × Tree)
    (keeps : ∀ tree : Tree,
      tree.Keeps (revise tree).2 (· ≠ tree.named (Config.globalPath environment))) :
    Program.Keeps (Unopened environment file place held)
      (do change (revise (← get).tree) : Action (StateM world) Unit) := by
  refine Program.Ensures.bind .get fun session => change_ensures ?_ ?_
  · rintro state ⟨rfl, unopened⟩ -
    exact unopened.changed (keeps _)
  · rintro state cause ⟨rfl, unopened⟩ -
    exact unopened.changed (keeps _)

theorem Action.configure_keeps :
    Program.Keeps (Unopened environment file place held)
      (configure environment options given : Action (StateM world) Flags) := by
  rw [configure_eq]
  refine .bind ?_ fun _ => .bind ?_ fun _ => ?_
  · unfold clearing
    split
    · exact change_keeps (fun tree => Config.clear tree (Config.globalPath environment))
        fun tree => Config.keeps_clear tree _
    · exact .pure _
  · unfold saving
    split
    · exact change_keeps (fun tree => Config.save tree (Config.globalPath environment) given)
        fun tree => Config.keeps_save tree _ _
    · exact .pure _
  · exact (layering_ensures fun _ _ holds _ _ => holds).mono (fun _ holds => holds)
      (fun _ _ holds => holds.2) fun _ _ holds => holds

/-! ## Reading and formatting the document -/

theorem encode_hostText_of_readText {tree : Tree} {host : Text}
    (readable : tree.readText file = .ok host) :
    ∃ location, tree.locate file = .ok location ∧
      tree.fileAt? location = some (Utf8.encode (Document.ofHostText host).hostText) := by
  obtain ⟨bytes, read, decoded⟩ := bind_eq_ok_iff.mp readable
  obtain ⟨location, located, content⟩ := Tree.read_eq_ok_iff.mp read
  refine ⟨location, located, ?_⟩
  cases text : Utf8.decode? bytes with
  | none =>
      rw [text] at decoded
      cases decoded
  | some decoded' =>
      rw [text] at decoded
      obtain rfl : decoded' = host := Except.ok.inj decoded
      have back : (Document.ofHostText decoded').hostText = decoded' := by
        rw [(Document.sound_ofHostText decoded').hostText_eq]
        exact Document.restoreBreaks_crlfOffsets 0 decoded'
      rw [content, back, Utf8.decode?_eq_some_iff.mp text]

theorem Action.readDocument_ensures :
    Program.Ensures (Unopened environment file place held)
      (readDocument file : Action (StateM world) Document)
      (fun document session => Opened file place held session ∧
        held = some (Utf8.encode document.hostText))
      (fun _ => Untouched place held) := by
  refine .bind .get fun session => ?_
  simp only
  split
  · cases readable : session.tree.readText file with
    | error cause => exact .throw fun _ holds => holds.2.toUntouched
    | ok host =>
        refine .pure fun state holds => ?_
        obtain ⟨rfl, unopened⟩ := holds
        obtain ⟨location, located, content⟩ := encode_hostText_of_readText readable
        obtain rfl : location = place :=
          (Tree.eq_named_of_locate located).trans unopened.named
        rw [unopened.file] at content
        exact ⟨⟨unopened.toUntouched, located⟩, content⟩
  · exact .throw fun _ holds => holds.2.toUntouched

/-- Tools that do not touch a file: they leave its bytes alone, and the way to it. -/
def Spares (launch : Launcher (StateT Tree (StateM world))) (path : Path) (place : Location) :
    Prop :=
  ∀ invocation before present,
    before.locate path = .ok place →
      let after := (((launch invocation).run before).run present).1.2
      after.locate path = .ok place ∧ after.fileAt? place = before.fileAt? place

theorem Spares.keeps {launch : Launcher (StateT Tree (StateM world))}
    (spares : Spares launch file place) (held : Option Bytes) :
    launch.Keeps fun tree => tree.locate file = .ok place ∧ tree.fileAt? place = held := by
  rintro invocation before present ⟨located, content⟩
  obtain ⟨still, same⟩ := spares invocation before present located
  exact ⟨still, same.trans content⟩

theorem Action.perform_on (launch : Launcher (StateT Tree (StateM world))) (flags : Flags)
    (document : Document) (session : Session) (present : world) :
    Program.on (perform launch flags options file document) session present =
      match Program.on (operation launch flags options file document) session.tree present with
      | ((.ok result, tree), later) => ((.ok result, { session with tree := tree }), later)
      | ((.error cause, tree), later) =>
          ((.error (.format file cause), { session with tree := tree }), later) := by
  have ran : Program.on (operation launch flags options file document) session.tree present =
      ((operation launch flags options file document).run.run session.tree).run present := rfl
  unfold perform
  rw [Program.on_bind, Program.on_get]
  simp only
  rw [Program.on_bind, Program.on_lift, ran]
  generalize ((operation launch flags options file document).run.run session.tree).run present =
    outcome
  obtain ⟨⟨cause | result, tree⟩, later⟩ := outcome <;> rfl

theorem Action.perform_ensures {launch : Launcher (StateT Tree (StateM world))}
    (spares : Spares launch file place) (flags : Flags) (document : Document) :
    Program.Ensures
      (fun session => Opened file place held session ∧
        held = some (Utf8.encode document.hostText))
      (perform launch flags options file document :
        Action (StateM world) (Outcome × Document))
      (fun result => Ready file place held result.2)
      (fun _ => Untouched place held) := by
  rintro session present ⟨opened, content⟩
  have ends := operation_leaves (spares.keeps held) flags options file document session.tree present
    ⟨opened.found, opened.file⟩
  rw [perform_on]
  revert ends
  generalize Program.on (operation launch flags options file document) session.tree present =
    outcome
  obtain ⟨⟨cause | result, tree⟩, later⟩ := outcome
  · rintro ⟨-, same⟩
    exact ⟨same, opened.output⟩
  · rintro ⟨edited, still, same⟩
    refine ⟨⟨⟨same, opened.output⟩, still⟩, by rw [content]; rfl, fun unmarked => ?_⟩
    rcases edited with unchanged | marked
    · rw [unchanged]
      exact content
    · rw [marked] at unmarked
      cases unmarked

/-! ## Delivering it -/

theorem Action.say_ensures {pre : Session → Prop} {fails : Complaint → Session → Prop}
    (message : Text)
    (holds : ∀ session messages, pre session → pre { session with messages := messages }) :
    Program.Ensures pre (say message : Action (StateM world) Unit) (fun _ => pre) fails :=
  .modify fun session start => holds session _ start

theorem Action.announce_ensures {pre : Session → Prop} {fails : Complaint → Session → Prop}
    (flags : Flags) (outcome : Outcome)
    (holds : ∀ session messages, pre session → pre { session with messages := messages }) :
    Program.Ensures pre (announce flags outcome : Action (StateM world) Unit) (fun _ => pre)
      fails := by
  cases outcome with
  | unchanged => exact say_ensures _ holds
  | formatted applied =>
      unfold announce
      simp only
      split
      · exact say_ensures _ holds
      · exact .pure fun _ start => start

theorem Action.showCursor_ensures {pre : Session → Prop} {fails : Complaint → Session → Prop}
    (outcome : Outcome) (document : Document)
    (holds : ∀ session messages, pre session → pre { session with messages := messages }) :
    Program.Ensures pre (showCursor options outcome document : Action (StateM world) Unit)
      (fun _ => pre) fails := by
  unfold showCursor
  split
  · exact say_ensures _ holds
  · exact .pure fun _ start => start

/-- Everything up to the delivery. -/
def prepare (launch : Launcher (StateT Tree (StateM world))) (environment : Environment)
    (options : Options) (given : Flags) (file : Path) :
    Action (StateM world) (Outcome × Document) := do
  let flags ← Action.configure environment options given
  let document ← Action.readDocument file
  let (outcome, edited) ← Action.perform launch flags options file document
  Action.announce flags outcome
  return (outcome, edited)

def finish (options : Options) (file : Path) (outcome : Outcome) (document : Document) :
    Action (StateM world) Unit := do
  Action.deliver options file document
  Action.showCursor options outcome document

theorem runFile_eq (launch : Launcher (StateT Tree (StateM world))) (arguments : List Text) :
    runFile launch environment arguments options file =
      prepare launch environment options (Flags.ofTokens arguments) file >>= fun result =>
        finish options file result.1 result.2 := by
  simp only [runFile, prepare, finish, bind_assoc, pure_bind]

/-- Whether the file is to be written in place makes no difference up to there. -/
theorem prepare_mark (launch : Launcher (StateT Tree (StateM world))) :
    prepare launch environment options.mark given file =
      prepare launch environment options given file := rfl

theorem prepare_ensures {launch : Launcher (StateT Tree (StateM world))}
    (spares : Spares launch file place) :
    Program.Ensures (Unopened environment file place held)
      (prepare launch environment options given file)
      (fun result => Ready file place held result.2)
      (fun _ => Untouched place held) := by
  have settled : Program.Ensures (Unopened environment file place held)
      (Action.configure environment options given : Action (StateM world) Flags)
      (fun _ => Unopened environment file place held) (fun _ => Untouched place held) :=
    Action.configure_keeps.mono (fun _ holds => holds) (fun _ _ holds => holds)
      fun _ _ holds => holds.toUntouched
  refine settled.bind fun flags => .bind Action.readDocument_ensures fun document =>
    .bind (Action.perform_ensures spares flags document) fun result => ?_
  exact .bind (Action.announce_ensures flags result.1 fun _ _ ready => ready.said) fun _ =>
    .pure fun _ holds => holds

/-- Printing leaves the file as it is. -/
theorem finish_prints (off : options.inPlace = false) (outcome : Outcome) (document : Document) :
    Program.Ensures (Ready file place held document)
      (finish options file outcome document : Action (StateM world) Unit)
      (fun _ session => session.tree.fileAt? place = held ∧
        session.output = Utf8.encode document.hostText)
      (fun _ _ => False) := by
  have delivered : Program.Ensures (Ready file place held document)
      (Action.deliver options file document : Action (StateM world) Unit)
      (fun _ session => session.tree.fileAt? place = held ∧
        session.output = Utf8.encode document.hostText)
      (fun _ _ => False) := by
    unfold Action.deliver
    rw [off]
    refine .modify fun session ready => ⟨ready.file, ?_⟩
    rw [ready.output, List.nil_append]
  exact delivered.bind fun _ => Action.showCursor_ensures outcome document fun _ _ holds => holds

/-- Writing in place puts into the file what printing would print. -/
theorem finish_writes (on : options.inPlace = true) (outcome : Outcome) (document : Document)
    (short : ∀ name ∈ file.splitOn '/', Path.isLongName name = false) :
    Program.Ensures (Ready file place held document)
      (finish options file outcome document : Action (StateM world) Unit)
      (fun _ session => session.tree.fileAt? place = some (Utf8.encode document.hostText) ∧
        session.output = [])
      (fun _ _ => False) := by
  have delivered : Program.Ensures (Ready file place held document)
      (Action.deliver options file document : Action (StateM world) Unit)
      (fun _ session => session.tree.fileAt? place = some (Utf8.encode document.hostText) ∧
        session.output = [])
      (fun _ _ => False) := by
    unfold Action.deliver
    rw [on]
    cases marked : document.dirty with
    | false =>
        exact .pure fun session ready => ⟨ready.file.trans (ready.clean marked), ready.output⟩
    | true =>
        refine .bind .get fun session => ?_
        cases written : session.tree.write file (Utf8.encode document.hostText) with
        | ok after =>
            refine .modify fun state holds => ?_
            obtain ⟨rfl, ready⟩ := holds
            have content := Tree.fileAt?_of_write written
            rw [← Tree.eq_named_of_locate ready.found] at content
            exact ⟨content, ready.output⟩
        | error cause =>
            refine .throw fun state holds => ?_
            obtain ⟨rfl, ready⟩ := holds
            obtain ⟨bytes, full⟩ := Option.isSome_iff_exists.mp ready.full
            have readable : session.tree.read file = .ok bytes :=
              Tree.read_eq_ok_iff.mpr ⟨place, ready.found, ready.file.trans full⟩
            obtain ⟨after, succeeds⟩ :=
              Tree.exists_write_of_read readable short (Utf8.encode document.hostText)
            rw [written] at succeeds
            cases succeeds
  exact delivered.bind fun _ => Action.showCursor_ensures outcome document fun _ _ holds => holds

end

/-! ## Whole runs -/

/-- What a run leaves behind. -/
def report {world : Type} (launch : Launcher (StateT Tree (StateM world)))
    (environment : Environment) (tree : Tree) (present : world) (arguments : List Text) : Report :=
  ((run launch environment arguments tree).run present).1

section

variable {world : Type} {launch : Launcher (StateT Tree (StateM world))}
  {environment : Environment} {tree : Tree} {present later : world} {arguments : List Text}
  {options : Options} {file : Path} {session : Session}

theorem report_eq (accepted : parse arguments = .ok (options, file)) :
    report launch environment tree present arguments =
      match (Program.on (runFile launch environment arguments options file) ⟨tree, [], []⟩
        present).1 with
      | (.ok (), session) => ⟨0, session⟩
      | (.error complaint, session) =>
          ⟨1, { session with messages := session.messages ++ complaint.report }⟩ := by
  have ran : Program.on (runFile launch environment arguments options file) ⟨tree, [], []⟩ present =
      StateT.run (ExceptT.run (runFile launch environment arguments options file) ⟨tree, [], []⟩)
        present := rfl
  unfold report run
  rw [accepted, ran]
  simp only [StateT.run_bind]
  generalize StateT.run (ExceptT.run (runFile launch environment arguments options file)
    ⟨tree, [], []⟩) present = outcome
  obtain ⟨⟨_ | _, session⟩, later⟩ := outcome <;> rfl

theorem report_of_error {complaint : Complaint}
    (accepted : parse arguments = .ok (options, file))
    (failed : Program.on (prepare launch environment options (Flags.ofTokens arguments) file)
      ⟨tree, [], []⟩ present = ((.error complaint, session), later)) :
    report launch environment tree present arguments =
      ⟨1, { session with messages := session.messages ++ complaint.report }⟩ := by
  rw [report_eq accepted, runFile_eq, Program.on_bind_of_error failed]

theorem report_of_ok {result : Outcome × Document} {ready post : Session → Prop}
    (accepted : parse arguments = .ok (options, file))
    (prepared : Program.on (prepare launch environment options (Flags.ofTokens arguments) file)
      ⟨tree, [], []⟩ present = ((.ok result, session), later))
    (holds : ready session)
    (finishes : Program.Ensures ready
      (finish options file result.1 result.2 : Action (StateM world) Unit)
      (fun _ => post) (fun _ _ => False)) :
    (report launch environment tree present arguments).code = 0 ∧
      post (report launch environment tree present arguments).session := by
  obtain ⟨value, left, after, finished, ends⟩ := finishes.exists_ok later holds
  rw [report_eq accepted, runFile_eq, Program.on_bind_of_ok prepared, finished]
  exact ⟨rfl, ends⟩

/-- A run that has got as far as the delivery succeeds. -/
theorem code_of_ok {result : Outcome × Document} {place : Location} {held : Option Bytes}
    (accepted : parse arguments = .ok (options, file))
    (prepared : Program.on (prepare launch environment options (Flags.ofTokens arguments) file)
      ⟨tree, [], []⟩ present = ((.ok result, session), later))
    (ready : Ready file place held result.2 session)
    (short : ∀ name ∈ file.splitOn '/', Path.isLongName name = false) :
    (report launch environment tree present arguments).code = 0 := by
  cases inPlace : options.inPlace with
  | false => exact (report_of_ok accepted prepared ready (finish_prints inPlace _ _)).1
  | true => exact (report_of_ok accepted prepared ready (finish_writes inPlace _ _ short)).1

end

/-- Tools that do not touch the file can do whatever else they like. The switch may stand wherever it
is accepted, which it is in front of all other arguments. -/
theorem delivery_agrees {world : Type} {launch : Launcher (StateT Tree (StateM world))}
    {environment : Environment} {tree : Tree} {present : world} {arguments : List Text}
    {options : Options} {file : Path}
    (accepted : parse arguments = .ok (options, file))
    (apart : tree.named (Config.globalPath environment) ≠ tree.named file)
    (short : ∀ name ∈ file.splitOn '/', Path.isLongName name = false)
    (spares : Spares launch file (tree.named file)) :
    let report := report launch environment tree present
    let held := fun left : Report => left.session.tree.fileAt? (tree.named file)
    ((report arguments).code ≠ 0 →
      held (report arguments) = tree.fileAt? (tree.named file) ∧
        (report arguments).session.output = []) ∧
    (options.inPlace = false →
      held (report arguments) = tree.fileAt? (tree.named file) ∧
      (∀ switch ∈ inPlaceSwitches, parse (switch :: arguments) = .ok (options.mark, file)) ∧
      ∀ marked, Marks arguments marked → (∃ result, parse marked = .ok result) →
        ((report marked).code = 0 ↔ (report arguments).code = 0) ∧
        ((report arguments).code = 0 →
          held (report marked) = some (report arguments).session.output)) := by
  intro report held
  have start : Unopened environment file (tree.named file) (tree.fileAt? (tree.named file))
      ⟨tree, [], []⟩ := ⟨⟨rfl, rfl⟩, rfl, apart⟩
  have prepares : Program.Ensures
      (Unopened environment file (tree.named file) (tree.fileAt? (tree.named file)))
      (prepare launch environment options (Flags.ofTokens arguments) file)
      (fun result => Ready file (tree.named file) (tree.fileAt? (tree.named file)) result.2)
      (fun _ => Untouched (tree.named file) (tree.fileAt? (tree.named file))) :=
    prepare_ensures spares
  cases prepared : Program.on (prepare launch environment options (Flags.ofTokens arguments) file)
    ⟨tree, [], []⟩ present with
  | mk outcome later =>
      obtain ⟨complaint | result, session⟩ := outcome
      · -- Both runs end before they deliver anything.
        have untouched := prepares.of_error start prepared
        have fails := report_of_error accepted prepared
        have alone : held (report arguments) = tree.fileAt? (tree.named file) ∧
            (report arguments).session.output = [] := by
          simp only [held, report, fails]
          exact ⟨untouched.file, untouched.output⟩
        refine ⟨fun _ => alone, fun off => ⟨alone.1,
          fun switch member => parse_cons_switch accepted off member,
          fun marked marks still => ?_⟩⟩
        obtain ⟨acceptedMarked, same⟩ := parse_marked accepted off marks still
        rw [← same, ← prepare_mark] at prepared
        simp [report, fails, report_of_error acceptedMarked prepared]
      · have ready := prepares.of_ok start prepared
        refine ⟨fun failed => absurd (code_of_ok accepted prepared ready short) failed,
          fun off => ?_⟩
        obtain ⟨succeeds, kept, printed⟩ := report_of_ok accepted prepared ready
          (finish_prints off result.1 result.2)
        refine ⟨kept, fun switch member => parse_cons_switch accepted off member,
          fun marked marks still => ?_⟩
        obtain ⟨acceptedMarked, same⟩ := parse_marked accepted off marks still
        rw [← same, ← prepare_mark] at prepared
        obtain ⟨succeedsMarked, written, -⟩ := report_of_ok acceptedMarked prepared ready
          (finish_writes rfl result.1 result.2 short)
        exact ⟨by simp [report, succeeds, succeedsMarked],
          fun _ => written.trans (by rw [printed])⟩

/-- A file with both kinds of breaks, from which the formatter takes one blank. -/
theorem delivery_agrees_mixed :
    let launch : Launcher (StateT Tree (StateM Unit)) := fun _ =>
      pure (.ok ⟨.exited 0, Utf8.encode ("<replacements>".toList ++
        "<replacement offset='2' length='1'></replacement>".toList ++
        "</replacements>".toList), []⟩)
    let environment : Environment := ⟨some "xdg".toList, none⟩
    let place : Location := [['w'], "a.c".toList]
    let tree : Tree := ⟨[['w']], [(place, .file (Utf8.encode "a\r\n b\nc".toList))]⟩
    let formatted := Utf8.encode "a\r\nb\nc".toList
    let printing := report launch environment tree () ["a.c".toList]
    let inPlace := report launch environment tree () ["-i".toList, "a.c".toList]
    printing.code = 0 ∧ printing.session.output = formatted ∧
      printing.session.tree.fileAt? place = tree.fileAt? place ∧
      inPlace.code = 0 ∧ inPlace.session.tree.fileAt? place = some formatted := by
  intro launch environment place tree formatted printing inPlace
  have accepted : parse ["a.c".toList] =
      .ok ({ Options.empty with file := some "a.c".toList }, "a.c".toList) := by decide +kernel
  have named : tree.named "a.c".toList = place := by decide +kernel
  have apart : tree.named (Config.globalPath environment) ≠ tree.named "a.c".toList := by
    decide +kernel
  have short : ∀ name ∈ "a.c".toList.splitOn '/', Path.isLongName name = false := by
    decide +kernel
  have spares : Spares launch "a.c".toList (tree.named "a.c".toList) :=
    fun _ _ _ located => ⟨located, rfl⟩
  have succeeds : printing.code = 0 := by decide +kernel
  have printed : printing.session.output = formatted := by decide +kernel
  have marks : Marks ["a.c".toList] ["-i".toList, "a.c".toList] :=
    ⟨"-i".toList, by decide, [], ["a.c".toList], rfl, rfl⟩
  obtain ⟨-, agrees⟩ := @delivery_agrees Unit launch environment tree () _ _ _ accepted apart short
    spares
  obtain ⟨kept, front, same⟩ := agrees rfl
  obtain ⟨both, written⟩ := same _ marks ⟨_, front "-i".toList (by decide)⟩
  rw [named] at kept written
  exact ⟨succeeds, printed, kept, both.mpr succeeds, (written succeeds).trans (by rw [← printed])⟩

end CommandLine

end Reformat
