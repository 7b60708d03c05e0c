import Reformat.Shell.Condition
import Reformat.Shell.Executable
import Reformat.Shell.State

/-!
What paths name: files and directories of the tree, the devices and programs of every system, and
what the descriptors of a shell stand for.
-/

namespace Reformat.Shell

/-- The descriptor that a path names. -/
def descriptorOf? (path : Text) : Option Nat :=
  let behind? (front : String) : Option Text :=
    if front.toList.isPrefixOf path then some (path.drop front.toList.length) else none
  match String.ofList path with
  | "/dev/stdin" => some 0
  | "/dev/stdout" => some 1
  | "/dev/stderr" => some 2
  | _ => (behind? "/dev/fd/" <|> behind? "/proc/self/fd/").bind Text.Decimal.digits?

/-- What a path stands for that names a device. -/
def deviceOf? (path : Text) : Option Handle :=
  match String.ofList path with
  | "/dev/null" => some .null
  | "/dev/zero" => some .zeros
  | _ => none

/-- The permissions of what stands at a location. -/
def State.modeAt (state : State) (location : Location) : Mode :=
  match state.modes.lookup location, state.tree.find? location with
  | some mode, _ => mode
  | none, some .directory => Mode.ofDirectory
  | none, _ => Mode.ofFile

/-- Where a shell looks for what can be run. -/
def State.system (state : State) : Executable.System :=
  ⟨{ state.tree with workingDirectory := state.scope.directory }, state.modeAt,
    state.recordings.map Recording.program⟩

namespace Condition.Entry

/-- What stands at a location. -/
def ofLocation (state : State) (location : Location) : Condition.Entry :=
  let kind : Condition.Kind :=
    match state.tree.find? location with
    | some (.file content) => .file content.isEmpty
    | _ => .directory
  ⟨kind, state.modeAt location, ['/'].intercalate ([] :: location)⟩

/-- What a path names, as conditions ask for it. -/
def ofPath? (state : State) (path : Text) : Option Condition.Entry :=
  let device : Condition.Entry := ⟨.device, 0o666, path⟩
  let tree := state.system.tree
  match descriptorOf? path, tree.locate path with
  | some descriptor, _ => do
      match ← state.scope.handles.lookup descriptor with
      | .stream number _ =>
          let name := "stream ".toList ++ Text.Decimal.write number
          match ← state.streams[number]? with
          | .file ⟨.place location, _, _⟩ =>
              some (ofLocation { state with tree := tree } location)
          | .file ⟨.kept content, _, _⟩ => some ⟨.file content.isEmpty, 0o600, name⟩
          | .pipe _ => some ⟨.pipe, 0o600, name⟩
      | _ => some device
  | none, .ok location => some (ofLocation { state with tree := tree } location)
  | none, .error _ =>
      if Executable.devices.contains path then some device
      else (Executable.programAt? state.system path).map fun name => ⟨.file false, 0o755, name⟩

end Condition.Entry

end Reformat.Shell
