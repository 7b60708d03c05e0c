import Reformat.Shell.Effect

/-!
Redirections: what a path is opened as, and what becomes of the descriptors.
-/

namespace Reformat.Shell.Redirect

open Effect

/-- The reason why a path cannot be opened. -/
def refusal (creating : Bool) : SystemError → Text
  | .notFound => absence
  | .notADirectory => absence
  | .isADirectory => "Is a directory".toList
  | .permissionDenied => "Permission denied".toList
  | .fileExists => "File exists".toList
  | .notText => absence
  | .badFormat => absence
  | .nameTooLong => "File name too long".toList
where
  absence : Text :=
    (if creating then "Directory nonexistent" else "No such file").toList

/-- What a direction opens a stream for. -/
def accessOf : Direction → Access
  | .input => .reading
  | .both => .both
  | _ => .writing

/-- Opens a file for a direction, and makes it or empties it as the direction says. -/
def openFile (direction : Direction) (path : Text) : Effect (Except SystemError Handle) := do
  let tree ← tree
  let stream (location : Location) (append : Bool) : Effect (Except SystemError Handle) := do
    return .ok (.stream (← openStream (.ofLocation location append)) (accessOf direction))
  match direction with
  | .input =>
      match tree.locate path with
      | .ok location => stream location false
      | .error cause => return .error cause
  | _ =>
      let kept : Bytes :=
        match direction, tree.read path with
        | .output, _ => []
        | .replace, _ => []
        | _, .ok content => content
        | _, .error _ => []
      if direction == .output && (← has .keepFiles) && (tree.read path).toOption.isSome then
        return .error .fileExists
      match ← putFile path kept with
      | .ok location => stream location (direction == .append)
      | .error cause => return .error cause

/-- Opens what a path names. A file that a descriptor stands for is opened anew, and anything else
that it stands for is shared. -/
def openPath (direction : Direction) (path : Text) : Effect (Except SystemError Handle) := do
  let state ← get
  match deviceOf? path, descriptorOf? path with
  | some device, _ => return .ok device
  | none, none => openFile direction path
  | none, some descriptor =>
      match state.scope.handles.lookup descriptor with
      | none => return .error .notFound
      | some (.stream number _) =>
          match state.streams[number]? with
          | none => return .error .notFound
          | some (.file ⟨.place location, _, _⟩) =>
              openFile direction (['/'].intercalate ([] :: location))
          | some (.file ⟨.kept content, _, _⟩) =>
              return .ok (.stream (← openStream (.ofText content)) (accessOf direction))
          | some (.pipe _) => return .ok (.stream number (accessOf direction))
      | some handle => return .ok handle

/-- What a descriptor is to stand for: what a path names, what another descriptor stands for, nothing
at all, or a document of the script. -/
inductive Target where
  | path (direction : Direction) (path : Text)
  | descriptor (number : Nat)
  | closed
  | document (number : Nat)

/-- What the text behind a redirection asks for. -/
def targetOf (direction : Direction) (text : Text) : Effect Target := do
  if direction != .copy then
    return .path direction text
  if text == ['-'] then
    return .closed
  if text.length ≠ 1 || !text.all Char.isDigit then
    fail "Syntax error: Bad fd number".toList
  return .descriptor (Nat.ofDigitChars 10 text 0)

/-- Redirects a descriptor, and tells whether that can be done. How a document is read is given. What
the descriptor stands for is put aside before another one is copied, if it is to be given back. -/
def apply (read : Nat → Effect Text) (putsAside : Bool) (descriptor : Nat) : Target → Effect Bool
  | .closed => do
      setHandle descriptor none
      return true
  | .descriptor number => do
      if number = descriptor then
        return true
      match ← handle number with
      | some source =>
          setHandle descriptor (some source)
          return true
      | none =>
          if putsAside then
            setHandle descriptor none
          complain (Text.Decimal.write number ++ ": Bad file descriptor".toList)
          return false
  | .document number => do
      let text ← read number
      setHandle descriptor (some (.stream (← openStream (.pipe (.ofText text))) .reading))
      return true
  | .path direction path => do
      match ← openPath direction path with
      | .ok opened =>
          setHandle descriptor (some opened)
          return true
      | .error cause =>
          let creating := direction != .input
          complain ((if creating then "cannot create " else "cannot open ").toList ++ path ++
            ": ".toList ++ refusal creating cause)
          return false

/-- Carries out redirections up to one that cannot be done, and tells whether there is none. The first
one of a descriptor puts aside what it stands for. -/
def applyAll (read : Nat → Effect Text) (putsAside : Nat → Bool) :
    List (Nat × Target) → Effect Bool
  | [] => return true
  | (descriptor, target) :: rest => do
      if ← apply read (putsAside descriptor) descriptor target then
        applyAll read (fun other => putsAside other && other ≠ descriptor) rest
      else
        return false

/-- The text of a script that a path names. -/
def script (path : Text) : Effect (Except SystemError Text) := do
  match deviceOf? path, descriptorOf? path with
  | some _, _ => return .ok []
  | none, none =>
      match (← tree).lookup path with
      | .ok (.file content) => return .ok (Utf8.octets content)
      | .ok .directory => return .ok []
      | .error cause => return .error cause
  | none, some _ =>
      match ← openPath .input path with
      | .error cause => return .error cause
      | .ok (.stream number access) =>
          let scope ← scope
          let free := (scope.handles.map Prod.fst).foldl max 0 + 1
          setHandle free (some (.stream number access))
          let text ← readAll free
          setHandle free none
          return .ok text
      | .ok _ => return .ok []

/-- Gives descriptors back what they stood for. -/
def restore (redirections : List Redirection) (before : List (Nat × Handle)) : Effect Unit :=
  redirections.forM fun redirection =>
    setHandle redirection.descriptor (before.lookup redirection.descriptor)

end Reformat.Shell.Redirect
