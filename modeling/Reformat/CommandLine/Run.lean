import Reformat.CommandLine.Arguments
import Reformat.Config.Location
import Reformat.Config.Store
import Reformat.Format.Operation
import Reformat.Tool.ClangFormat
import Reformat.Tool.Git
import Reformat.Tool.GnuDiff

/-!
A run of the command line over a tree of files. What a run leaves behind is its exit code, what it
prints, and the tree.
-/

namespace Reformat.CommandLine

/-- Why a run fails. -/
inductive Complaint where
  | config (cause : Config.Complaint)
  | noFile (path : Path)
  | read (path : Path) (cause : SystemError)
  | format (path : Path) (cause : Failure)
  | write (path : Path) (cause : SystemError)
deriving DecidableEq, Repr

def Complaint.message : Complaint → Text
  | config cause => cause.message
  | noFile path => "File not found: ".toList ++ path
  | read path _ => "Failed to read ".toList ++ path
  | format path _ => "Failed to format ".toList ++ path
  | write path _ => "Failed to write ".toList ++ path

def Complaint.cause? : Complaint → Option Text
  | config cause => some cause.cause.message.toList
  | noFile _ => none
  | read _ cause => some cause.message.toList
  | format _ cause => some cause.message
  | write _ cause => some cause.message.toList

/-- The complaint as it is printed, with the cause indented below it. -/
def Complaint.report (complaint : Complaint) : Text :=
  let headline := "Error: ".toList ++ complaint.message ++ ['\n']
  match complaint.cause? with
  | none => headline
  | some cause =>
      headline ++ "\nCaused by:\n".toList ++
        (cause.splitOn '\n').flatMap fun line => "    ".toList ++ line ++ ['\n']

/-- What a run has done so far. -/
structure Session where
  tree : Tree
  output : Bytes
  messages : Text

/-- What a run leaves behind. -/
structure Report where
  code : Nat
  session : Session

variable {m : Type → Type} [Monad m]

/-- A step of a run. -/
abbrev Action (m : Type → Type) (α : Type) :=
  ExceptT Complaint (StateT Session m) α

namespace Action

def say (message : Text) : Action m Unit :=
  modify fun session => { session with messages := session.messages ++ message ++ ['\n'] }

/-- Lets a change of the tree take effect, and the run fail if the change does. -/
def change (changed : Except Config.Complaint Unit × Tree) : Action m Unit := do
  modify fun session => { session with tree := changed.2 }
  match changed.1 with
  | .ok () => return ()
  | .error cause => throw (.config cause)

def load (path : Path) : Action m Flags := do
  match Config.load (← get).tree path with
  | .ok flags => return flags
  | .error cause => throw (.config cause)

/-- Clears and saves defaults as asked, and gives the flags in effect. -/
def configure (environment : Environment) (options : Options) (given : Flags) :
    Action m Flags := do
  let path := Config.globalPath environment
  if options.clear then
    change (Config.clear (← get).tree path)
  if options.save then
    change (Config.save (← get).tree path given)
  if options.clear then
    return Flags.empty.union given
  else
    let globalFlags ← load path
    let localFlags ← load Config.localPath
    return (globalFlags.union localFlags).union given

def readDocument (file : Path) : Action m Document := do
  let tree := (← get).tree
  if tree.has file then
    match tree.readText file with
    | .ok host => return Document.ofHostText host
    | .error cause => throw (.read file cause)
  else
    throw (.noFile file)

/-- The operation that the options ask for. -/
def operation
    {m : Type → Type} [Monad m] (launch : Launcher m) (flags : Flags) (options : Options)
    (file : Path) (document : Document) : ExceptT Failure m (Outcome × Document) :=
  let cursor := options.cursor.getD 0
  let style := flags.formatStyle (options.assumeFilename.or (some file))
  let formatter := ClangFormat.formatter ⟨flags.formatter.getD ClangFormat.tool⟩ launch
  if options.changed then
    document.formatChangedLines formatter
      (GnuDiff.comparer ⟨flags.diff.getD GnuDiff.tool⟩ launch)
      (Git.archive ⟨flags.git.getD Git.tool⟩ launch)
      (some file) flags.revisionOrHead cursor style
  else
    match options.region with
    | some (start, stop) => document.formatRegion formatter start stop cursor style
    | none => document.formatBuffer formatter cursor style

/-- Carries out the operation. The tree is as the tools leave it. -/
def perform
    (launch : Launcher (StateT Tree m)) (flags : Flags) (options : Options) (file : Path)
    (document : Document) : Action m (Outcome × Document) := do
  let run := operation launch flags options file document
  let (result, tree) ←
    (run.run.run (← get).tree : m (Except Failure (Outcome × Document) × Tree))
  modify fun session => { session with tree := tree }
  match result with
  | .ok result => return result
  | .error cause => throw (.format file cause)

/-- Tells what the outcome alone does not show. -/
def announce (flags : Flags) : Outcome → Action m Unit
  | .unchanged =>
      say ("[info] No changes since ".toList ++ flags.revisionOrHead ++
        "; nothing to format".toList)
  | .formatted applied =>
      if applied.incomplete then
        say "[warn] Formatting incomplete (syntax errors)".toList
      else
        return ()

/-- Puts the document where the options want it. A file is written only if there were edits. -/
def deliver (options : Options) (file : Path) (document : Document) : Action m Unit := do
  if options.inPlace then
    if document.dirty then
      match (← get).tree.write file (Utf8.encode document.hostText) with
      | .ok written => modify fun session => { session with tree := written }
      | .error cause => throw (.write file cause)
  else
    modify fun session =>
      { session with output := session.output ++ Utf8.encode document.hostText }

def showCursor (options : Options) (outcome : Outcome) (document : Document) :
    Action m Unit := do
  if options.printCursor then
    let cursor := outcome.cursorOr (options.cursor.getD 0)
    let place := document.lineColumn cursor
    say ("cursor ".toList ++ Text.Decimal.write cursor ++
      " (line ".toList ++ Text.Decimal.write (place.line + 1) ++
      ", column ".toList ++ Text.Decimal.write (place.column + 1) ++ [')'])

end Action

/-- A run with arguments that could be read. The flags that are saved and those that are in effect
come from the arguments as they stand. -/
def runFile
    (launch : Launcher (StateT Tree m)) (environment : Environment) (arguments : List Text)
    (options : Options) (file : Path) : Action m Unit := do
  let flags ← Action.configure environment options (Flags.ofTokens arguments)
  let document ← Action.readDocument file
  let (outcome, edited) ← Action.perform launch flags options file document
  Action.announce flags outcome
  Action.deliver options file edited
  Action.showCursor options outcome edited

def versionText : Text :=
  "fmtpatch 0.1.0\n".toList

def usageText : Text :=
  "Usage: fmtpatch [OPTIONS] <FILE>\n".toList

/-- A run of the command line on the arguments behind the program's name. -/
def run
    (launch : Launcher (StateT Tree m)) (environment : Environment) (arguments : List Text)
    (tree : Tree) : m Report := do
  match parse arguments with
  | .error .usage => return ⟨2, ⟨tree, [], usageText⟩⟩
  | .error .version => return ⟨0, ⟨tree, Utf8.encode versionText, []⟩⟩
  | .error .help => return ⟨0, ⟨tree, Utf8.encode usageText, []⟩⟩
  | .ok (options, file) =>
      let action := runFile launch environment arguments options file
      let (result, session) ← (action.run ⟨tree, [], []⟩ : m (Except Complaint Unit × Session))
      match result with
      | .ok () => return ⟨0, session⟩
      | .error complaint =>
          return ⟨1, { session with messages := session.messages ++ complaint.report }⟩

end Reformat.CommandLine
