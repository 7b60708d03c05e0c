import Reformat.CommandLine.Run
import Reformat.Tool.Recorded

/-!
The program. It takes up the files that a run may read, runs, and writes back those that the run has
changed. Tools are not started: their answers are read from the directory that the environment names
as `REFORMAT_ANSWERS`, where `clang-format.out` holds what `clang-format` prints, `clang-format.err`
its diagnostics and `clang-format.code` its exit code; a tool without a first file is not found.
-/

namespace Reformat.Main

def contentOf? (path : Path) : IO (Option Bytes) := do
  try
    let content ← IO.FS.readBinFile (String.ofList path)
    return some content.toList
  catch _ =>
    return none

/-- What is found at a path, if anything can be. -/
def nodeAt? (path : Path) : IO (Option Node) := do
  try
    let content ← IO.FS.readBinFile (String.ofList path)
    return some (.file content.toList)
  catch
    | .inappropriateType .. => return some .directory
    | _ => return none

def takeUp (tree : Tree) (path : Path) : IO Tree := do
  match ← nodeAt? path with
  | none => return tree
  | some node =>
      let made := (Config.makeParent tree path).2
      match made.target path with
      | .ok location => return made.put location node
      | .error _ => return tree

def writeBack (before after : Tree) (path : Path) : IO Unit := do
  match (before.read path).toOption, (after.read path).toOption with
  | old, some content =>
      if old != some content then
        let directory := (Path.parent? path).getD []
        if !directory.isEmpty then
          IO.FS.createDirAll (String.ofList directory)
        IO.FS.writeBinFile (String.ofList path) (ByteArray.mk content.toArray)
  | some _, none => IO.FS.removeFile (String.ofList path)
  | none, none => return ()

/-- The answer kept under a name, for a program and its first argument. -/
def recordingOf?
    (directory name program : Text) (command : Option Text) : IO (Option Recording) := do
  let file (ending : String) : Path := Path.join directory (name ++ ending.toList)
  match ← contentOf? (file ".out") with
  | none => return none
  | some output =>
      let diagnostics := (← contentOf? (file ".err")).getD []
      let written := Text.trim (Utf8.decodeLossy ((← contentOf? (file ".code")).getD []))
      let code := (Text.Decimal.digits? written).getD 0
      return some {
        program := program
        command := command
        takesInput := program == ClangFormat.tool
        files := if program == GnuDiff.tool then 2 else 0
        completion := ⟨.exited (code : Int), output, diagnostics⟩ }

def recordingsIn (directory : Text) : IO (List Recording) := do
  let git := Git.tool
  let found ← [
      (ClangFormat.tool, ClangFormat.tool, none), (GnuDiff.tool, GnuDiff.tool, none),
      ("git-rev-parse".toList, git, some "rev-parse".toList),
      ("git-ls-files".toList, git, some "ls-files".toList),
      ("git-show".toList, git, some "show".toList)].mapM
    fun (name, program, command) => recordingOf? directory name program command
  return found.filterMap id

def fromEnvironment (name : String) : IO (Option Text) := do
  return (← IO.getEnv name).map String.toList

def run (arguments : List Text) : IO UInt32 := do
  let environment : Environment := ⟨← fromEnvironment "XDG_CONFIG_HOME", ← fromEnvironment "HOME"⟩
  let recordings ←
    match ← fromEnvironment "REFORMAT_ANSWERS" with
    | some directory => recordingsIn directory
    | none => pure []
  let here := (← IO.currentDir).toString.toList
  let file :=
    match CommandLine.parse arguments with
    | .ok (_, file) => [file]
    | .error _ => []
  let paths := Config.globalPath environment :: Config.localPath :: file
  let directory := (here.splitOn '/').filter fun name => !name.isEmpty
  let before ← paths.foldlM takeUp (Tree.empty directory)
  let (report, _) :=
    (CommandLine.run (Recording.launch recordings) environment arguments before).run []
  paths.forM (writeBack before report.session.tree)
  (← IO.getStdout).write (ByteArray.mk report.session.output.toArray)
  (← IO.getStderr).putStr (String.ofList report.session.messages)
  return UInt32.ofNat report.code

end Reformat.Main

def main (arguments : List String) : IO UInt32 :=
  Reformat.Main.run (arguments.map String.toList)
