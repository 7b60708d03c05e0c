import Reformat.Text.Utf8

/-!
Paths: names between slashes. Repeated slashes, a slash at the end and a `.` anywhere but in front
say nothing; no path is otherwise simplified.
-/

namespace Reformat

abbrev Path := Text

namespace Path

/-- Whether the piece between two slashes says nothing. -/
def isIdle (piece : Text) : Bool :=
  piece.isEmpty || piece == ['.']

/-- The pieces of a path: the one in front of the first slash, and the others up to the last that
says something. -/
def pieces (path : Path) : Text × List Text :=
  match path.splitOn '/' with
  | [] => ([], [])
  | first :: others => (first, (others.reverse.dropWhile isIdle).reverse)

/-- The last name, where the path ends in one. -/
def fileName? (path : Path) : Option Text :=
  let (first, others) := pieces path
  let last := others.getLast?.getD first
  if isIdle last || last == ['.', '.'] then none else some last

/-- The path without its last piece: none for the empty path and for the root. -/
def parent? (path : Path) : Option Path :=
  match pieces path with
  | (first, []) => if first.isEmpty then none else some []
  | (first, others) =>
      let rest := (others.dropLast.reverse.dropWhile isIdle).reverse
      if first.isEmpty && rest.isEmpty then
        some ['/']
      else
        some (['/'].intercalate (first :: rest))

/-- A path and the paths above it, as many as there are up to `count`, without the empty one. -/
def chainWithin : Nat → Path → List Path
  | 0, _ => []
  | count + 1, path =>
      if path.isEmpty then
        []
      else
        path :: ((parent? path).map (chainWithin count)).getD []

/-- A path and the paths above it. Each takes away a character at least, so that they are no more
than the characters of the path. -/
def chain (path : Path) : List Path :=
  chainWithin path.length path

/-- Whether a name has more octets than a name in a directory can have. -/
def isLongName (name : Text) : Bool :=
  255 < (Utf8.encode name).length

/-- Whether a path has more octets than a path can have. -/
def isLong (path : Path) : Bool :=
  4095 < (Utf8.encode path).length

/-- A name below a directory. -/
def join (directory : Path) (name : Text) : Path :=
  if directory.isEmpty || directory.getLast? == some '/' then
    directory ++ name
  else
    directory ++ '/' :: name

end Path

end Reformat
