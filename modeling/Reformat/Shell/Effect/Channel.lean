import Reformat.Shell.Effect.Basic
import Reformat.Shell.Entry

/-!
What commands do to files, and to the streams that descriptors stand for.
-/

namespace Reformat.Shell.Effect

/-! ## Files -/

/-- The tree as the scope sees it. -/
def tree : Effect Tree := do
  let state ← get
  return { state.tree with workingDirectory := state.scope.directory }

def putTree (tree : Tree) : Effect Unit :=
  modify fun state =>
    { state with tree := { tree with workingDirectory := state.tree.workingDirectory } }

def contentAt (tree : Tree) (location : Location) : Text :=
  match tree.find? location with
  | some (.file content) => Utf8.octets content
  | _ => []

def setMode (location : Location) (mode : Mode) : Effect Unit :=
  modify fun state =>
    let others := state.modes.filter fun (other, _) => other ≠ location
    { state with modes := (location, mode) :: others }

/-- Writes a file, and gives its location. -/
def putFile (path : Text) (content : Bytes) : Effect (Except SystemError Location) := do
  let tree ← tree
  match tree.target path, tree.write path content with
  | .ok location, .ok changed =>
      putTree changed
      return .ok location
  | .error cause, _ => return .error cause
  | _, .error cause => return .error cause

/-! ## Descriptors -/

def handle (descriptor : Nat) : Effect (Option Handle) := do
  return (← scope).handles.lookup descriptor

def setHandle (descriptor : Nat) (handle : Option Handle) : Effect Unit :=
  changeScope fun scope =>
    let others := scope.handles.filter fun entry => entry.1 ≠ descriptor
    { scope with handles := (handle.map fun handle => (descriptor, handle)).toList ++ others }

/-- Opens a stream and gives its number. -/
def openStream (stream : Stream) : Effect Nat := do
  let number := (← get).streams.size
  modify fun state => { state with streams := state.streams.push stream }
  return number

def setStream (number : Nat) (stream : Stream) : Effect Unit :=
  modify fun state => { state with streams := state.streams.setIfInBounds number stream }

/-! ## Writing -/

/-- Text as it stands in a file after something was written at a position. -/
def overwrite (content : Text) (position : Nat) (text : Text) : Text :=
  let padding := List.replicate (position - content.length) '\x00'
  content.take position ++ padding ++ text ++ content.drop (position + text.length)

/-- The signal that comes to a process whose output nobody reads. -/
def brokenPipe : Nat :=
  13

/-- Ends a process whose output nobody reads, unless it expects that. -/
def breakPipe : Effect Unit := do
  let scope ← scope
  match scope.traps.lookup brokenPipe with
  | none => throw (if scope.isProgram then .stopped brokenPipe else .killed brokenPipe)
  | some [] => return ()
  | some _ =>
      if scope.isProgram then
        throw (.stopped brokenPipe)
      post (scope.shells.headD 0) brokenPipe

/-- Writes to a file where it was left. -/
def writeFile (number : Nat) (file : OpenFile) (text : Text) : Effect Unit := do
  let state ← get
  let content :=
    match file.holder with
    | .place location => contentAt state.tree location
    | .kept content => content
  let position := if file.append then content.length else file.position
  let written := overwrite content position text
  let after := position + text.length
  match file.holder with
  | .place location =>
      set { state with tree := state.tree.put location (.file (Utf8.ofOctets written)) }
      setStream number (.file { file with position := after })
  | .kept _ => setStream number (.file ⟨.kept written, after, file.append⟩)

/-- Writes to a pipe, or breaks it where it does not take so much. -/
def writePipe (number : Nat) (pipe : Pipe) (text : Text) : Effect (Option Refusal) := do
  if pipe.takes text then
    setStream number (.pipe (pipe.add text))
    return none
  setStream number (.pipe (pipe.add (text.take (pipe.room.getD 0))))
  breakPipe
  return some .unread

/-- Writes to a descriptor, or tells why that cannot be done. -/
def write (descriptor : Nat) (text : Text) : Effect (Option Refusal) := do
  if text.isEmpty then
    return none
  match ← handle descriptor with
  | none => return some .closed
  | some .null => return none
  | some .zeros => return none
  | some (.stream number access) =>
      if !access.writes then
        return some .closed
      match (← get).streams[number]? with
      | none => return some .closed
      | some (.pipe pipe) => writePipe number pipe text
      | some (.file file) =>
          writeFile number file text
          return none

/-- Writes to the output. What is amiss with that is told when the command has ended. -/
def say (text : Text) : Effect Unit := do
  match ← write 1 text with
  | none => return ()
  | some refusal => changeScope fun scope => { scope with loss := some refusal }

def sayError (text : Text) : Effect Unit := do
  let _ ← write 2 text

/-! ## Reading -/

/-- Zeros without end, as far as they are read. -/
def zeros (state : State) : Text :=
  List.replicate (2 * state.endless) '\x00'

/-- What is still to be read from a descriptor, and whether it can be read again; nothing if it is not
open for that. -/
def pending? (descriptor : Nat) : Effect (Option (Text × Bool)) := do
  match ← handle descriptor with
  | none => return none
  | some .null => return some ([], false)
  | some .zeros => return some (zeros (← get), false)
  | some (.stream number access) =>
      if !access.reads then
        return none
      let state ← get
      match state.streams[number]? with
      | none => return none
      | some (.file file) =>
          match file.holder with
          | .place location =>
              match state.tree.find? location with
              | some (.file content) =>
                  return some (Utf8.octets (content.drop file.position), true)
              | _ => return some ([], true)
          | .kept content => return some (content.drop file.position, true)
      | some (.pipe pipe) =>
          let pipe := pipe.settle
          setStream number (.pipe pipe)
          return some (pipe.text, false)

/-- What is still to be read from a descriptor, if anything is. -/
def pending (descriptor : Nat) : Effect Text := do
  return ((← pending? descriptor).map Prod.fst).getD []

/-- Takes a number of characters off what is still to be read. -/
def advance (descriptor count : Nat) : Effect Unit := do
  match ← handle descriptor with
  | some (.stream number _) =>
      match (← get).streams[number]? with
      | none => return ()
      | some (.file file) =>
          setStream number (.file { file with position := file.position + count })
      | some (.pipe pipe) => setStream number (.pipe (pipe.settle.take count))
  | _ => return ()

/-- Reads all that there is. -/
def readAll (descriptor : Nat) : Effect Text := do
  let text ← pending descriptor
  advance descriptor text.length
  return text

/-- The text that a path names. A pipe is read from where its reading has stopped. -/
def textOf (state : State) (path : Text) : Except SystemError Text :=
  match deviceOf? path, descriptorOf? path with
  | some .null, _ => .ok []
  | some _, _ => .ok (zeros state)
  | none, some descriptor =>
      match state.scope.handles.lookup descriptor with
      | none => .error .notFound
      | some .null => .ok []
      | some .zeros => .ok (zeros state)
      | some (.stream number _) =>
          match state.streams[number]? with
          | none => .error .notFound
          | some (.file ⟨.place location, _, _⟩) => .ok (contentAt state.tree location)
          | some (.file ⟨.kept content, _, _⟩) => .ok content
          | some (.pipe pipe) => .ok pipe.settle.text
  | none, none =>
      let tree : Tree := { state.tree with workingDirectory := state.scope.directory }
      (tree.read path).map Utf8.octets

end Reformat.Shell.Effect
