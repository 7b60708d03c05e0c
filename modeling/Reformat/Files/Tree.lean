import Reformat.Files.Error
import Reformat.Files.Path

/-!
The files and directories of a system, as far as they are known, and the working directory in
which paths begin that do not begin at the root. A path is followed step by step, and what it
names is told by a location. Main statement: an entry that is put is found, and no other is
changed.
-/

namespace Reformat

/-- The names on the way from the root to an entry. -/
abbrev Location := List Text

inductive Node where
  | file (content : Bytes)
  | directory
deriving DecidableEq, Repr

structure Tree where
  workingDirectory : Location
  /-- Each location stands here at most once. -/
  entries : List (Location × Node)
deriving Repr

namespace Tree

/-- Nothing but a working directory. -/
def empty (workingDirectory : Location) : Tree :=
  ⟨workingDirectory, []⟩

/-- The working directory is always there, and so are the directories that it lies in. -/
def find? (tree : Tree) (location : Location) : Option Node :=
  if location.isPrefixOf tree.workingDirectory then
    some .directory
  else
    tree.entries.lookup location

def putEntry (location : Location) (node : Node) : List (Location × Node) → List (Location × Node)
  | [] => [(location, node)]
  | entry :: rest =>
      if entry.1 = location then
        (location, node) :: rest
      else
        entry :: putEntry location node rest

def put (tree : Tree) (location : Location) (node : Node) : Tree :=
  { tree with entries := putEntry location node tree.entries }

/-- The tree with other names. -/
def rename (change : Text → Text) (tree : Tree) : Tree :=
  ⟨tree.workingDirectory.map change,
    tree.entries.map fun (location, node) => (location.map change, node)⟩

def drop (tree : Tree) (location : Location) : Tree :=
  { tree with entries := tree.entries.filter fun entry => entry.1 ≠ location }

/-- Follows the pieces of a path from a location. Every piece needs a directory to start from. -/
def walk (tree : Tree) : Location → List Text → Except SystemError Location
  | location, [] => return location
  | location, piece :: rest =>
      match tree.find? location with
      | none => throw .notFound
      | some (.file _) => throw .notADirectory
      | some .directory =>
          if Path.isIdle piece then
            walk tree location rest
          else if piece = ['.', '.'] then
            walk tree location.dropLast rest
          else if (tree.find? (location ++ [piece])).isSome then
            walk tree (location ++ [piece]) rest
          else if Path.isLongName piece then
            throw .nameTooLong
          else
            throw .notFound

/-- The directory in which a path begins. -/
def start (tree : Tree) (path : Path) : Location :=
  if path.head? = some '/' then [] else tree.workingDirectory

/-- The location that a path names. -/
def locate (tree : Tree) (path : Path) : Except SystemError Location :=
  if path.isEmpty then
    throw .notFound
  else if Path.isLong path then
    throw .nameTooLong
  else
    tree.walk (tree.start path) (path.splitOn '/')

def lookup (tree : Tree) (path : Path) : Except SystemError Node := do
  match tree.find? (← tree.locate path) with
  | some node => return node
  | none => throw .notFound

def has (tree : Tree) (path : Path) : Bool :=
  match tree.lookup path with
  | .ok _ => true
  | .error _ => false

def read (tree : Tree) (path : Path) : Except SystemError Bytes := do
  match ← tree.lookup path with
  | .file content => return content
  | .directory => throw .isADirectory

def readText (tree : Tree) (path : Path) : Except SystemError Text := do
  match Utf8.decode? (← tree.read path) with
  | some text => return text
  | none => throw .notText

/-- Where the last name of a path is looked for, the name, and whether slashes follow it. The root
has the empty name. -/
structure Ending where
  directory : Location
  name : Text
  slashed : Bool

/-- Whether the name describes a directory instead of naming an entry of one. -/
def Ending.isDescription (ending : Ending) : Bool :=
  Path.isIdle ending.name || ending.name == ['.', '.']

/-- The place of an entry that has the name, or may get it. -/
def Ending.location (ending : Ending) : Except SystemError Location :=
  if Path.isLongName ending.name then
    .error .nameTooLong
  else
    .ok (ending.directory ++ [ending.name])

/-- Follows a path up to its last name. -/
def ending (tree : Tree) (path : Path) : Except SystemError Ending := do
  if path.isEmpty then
    throw .notFound
  if Path.isLong path then
    throw .nameTooLong
  let pieces := path.splitOn '/'
  let named := (pieces.reverse.dropWhile (·.isEmpty)).reverse
  let directory ← tree.walk (tree.start path) named.dropLast
  match tree.find? directory with
  | none => throw .notFound
  | some (.file _) => throw .notADirectory
  | some .directory =>
      return ⟨directory, named.getLast?.getD [], named.length < pieces.length⟩

/-- The place that a path names, which may be free, and whether slashes follow the last name. -/
def place (tree : Tree) (path : Path) : Except SystemError (Location × Bool) := do
  let ending ← tree.ending path
  return (← ending.location, ending.slashed)

/-- The location of a file to be made or changed: its directory must be there, and it must be named,
not described as a directory. -/
def target (tree : Tree) (path : Path) : Except SystemError Location := do
  let ending ← tree.ending path
  if ending.isDescription || ending.slashed then
    throw .isADirectory
  ending.location

def write (tree : Tree) (path : Path) (content : Bytes) : Except SystemError Tree := do
  let location ← tree.target path
  match tree.find? location with
  | some .directory => throw .isADirectory
  | _ => return tree.put location (.file content)

def remove (tree : Tree) (path : Path) : Except SystemError Tree := do
  let ending ← tree.ending path
  if ending.isDescription then
    throw .isADirectory
  let location ← ending.location
  match tree.find? location with
  | some (.file _) =>
      if ending.slashed then
        throw .notADirectory
      return tree.drop location
  | some .directory => throw .isADirectory
  | none => throw .notFound

def makeDirectory (tree : Tree) (path : Path) : Except SystemError Tree := do
  let ending ← tree.ending path
  if ending.isDescription then
    throw .fileExists
  let location ← ending.location
  if (tree.find? location).isSome then
    throw .fileExists
  return tree.put location .directory

def hasDirectory (tree : Tree) (path : Path) : Bool :=
  match tree.lookup path with
  | .ok .directory => true
  | _ => false

/-- Makes the first of a list of directories, of which each lies in the next one, and before it
those that it lies in, as far as they are missing. Those made before a failure stay. -/
def makeChain (tree : Tree) : List Path → Except SystemError Unit × Tree
  | [] => (.ok (), tree)
  | path :: above =>
      match tree.makeDirectory path with
      | .ok made => (.ok (), made)
      | .error .notFound =>
          match makeChain tree above with
          | (.error cause, made) => (.error cause, made)
          | (.ok (), below) =>
              match below.makeDirectory path with
              | .ok made => (.ok (), made)
              | .error cause =>
                  (if below.hasDirectory path then .ok () else .error cause, below)
      | .error cause => (if tree.hasDirectory path then .ok () else .error cause, tree)

/-- Makes a directory and those that it lies in, as far as they are missing. -/
def makeDirectories (tree : Tree) (path : Path) : Except SystemError Unit × Tree :=
  tree.makeChain (Path.chain path)

/-- All files with their locations. -/
def files (tree : Tree) : List (Location × Bytes) :=
  tree.entries.filterMap fun (location, node) =>
    match node with
    | .file content => some (location, content)
    | .directory => none

theorem lookup_putEntry
    (location other : Location) (node : Node) (entries : List (Location × Node)) :
    (putEntry location node entries).lookup other =
      if other = location then some node else entries.lookup other := by
  induction entries with
  | nil =>
      by_cases found : other = location
      · simp [putEntry, found]
      · simp [putEntry, found, List.lookup_cons, beq_false_of_ne found]
  | cons entry rest ih =>
      obtain ⟨key, value⟩ := entry
      by_cases same : key = location
      · subst same
        by_cases found : other = key
        · simp [putEntry, found]
        · simp [putEntry, found, List.lookup_cons, beq_false_of_ne found]
      · by_cases found : other = key
        · subst found
          simp [putEntry, same]
        · simp [putEntry, same, List.lookup_cons, beq_false_of_ne found, ih]

theorem find?_put
    (tree : Tree) {location : Location} (other : Location) (node : Node)
    (below : location.isPrefixOf tree.workingDirectory = false) :
    (tree.put location node).find? other =
      if other = location then some node else tree.find? other := by
  unfold find? put
  by_cases same : other = location
  · subst same
    simp [below, lookup_putEntry]
  · simp [same, lookup_putEntry]

end Tree

end Reformat
