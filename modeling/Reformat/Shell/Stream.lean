import Reformat.Files.Tree

/-!
What descriptors stand for: open files, and pipes.
-/

namespace Reformat.Shell

/-- What a stream was opened for. -/
inductive Access where
  | reading
  | writing
  | both
deriving DecidableEq, Repr

def Access.reads (access : Access) : Bool :=
  access != .writing

def Access.writes (access : Access) : Bool :=
  access != .reading

/-- What a descriptor stands for. -/
inductive Handle where
  | null
  | zeros
  | stream (number : Nat) (access : Access)
deriving DecidableEq, Repr

/-- Why something cannot be written. -/
inductive Refusal where
  | closed
  | unread
deriving DecidableEq, Repr

def Refusal.message : Refusal → Text
  | closed => "Bad file descriptor".toList
  | unread => "Broken pipe".toList

/-- Where the content of an open file is: at a place of the tree, or nowhere else but here. -/
inductive Holder where
  | place (location : Location)
  | kept (content : Text)
deriving DecidableEq, Repr

structure OpenFile where
  holder : Holder
  position : Nat
  append : Bool
deriving DecidableEq, Repr

structure Pipe where
  /-- What is to be read, in order. -/
  text : Text
  /-- What was written behind the text, the last piece first. -/
  recent : List Text
  /-- How much can still be written, if not anything. -/
  room : Option Nat

namespace Pipe

/-- A pipe to which nothing has been written. -/
def empty (room : Option Nat) : Pipe :=
  ⟨[], [], room⟩

/-- A pipe from which a text is to be read that is there from the first. -/
def ofText (text : Text) : Pipe :=
  { empty none with text := text }

def takes (pipe : Pipe) (text : Text) : Bool :=
  pipe.room.all (text.length ≤ ·)

def add (text : Text) (pipe : Pipe) : Pipe :=
  { pipe with recent := text :: pipe.recent, room := pipe.room.map (· - text.length) }

/-- Puts in order what was written. -/
def settle (pipe : Pipe) : Pipe :=
  { pipe with text := pipe.text ++ pipe.recent.reverse.flatten, recent := [] }

/-- Takes so many characters off what is in order. -/
def take (count : Nat) (pipe : Pipe) : Pipe :=
  { pipe with text := pipe.text.drop count }

end Pipe

/-- An open file, or a pipe. -/
inductive Stream where
  | file (file : OpenFile)
  | pipe (pipe : Pipe)

/-- A file that is opened at its beginning. -/
def Stream.ofLocation (location : Location) (append : Bool) : Stream :=
  .file ⟨.place location, 0, append⟩

/-- A text that can be read more than once. -/
def Stream.ofText (text : Text) : Stream :=
  .file ⟨.kept text, 0, false⟩

/-- All that is still to be read of what is not in the tree. -/
def Stream.text : Stream → Text
  | .file ⟨.kept content, position, _⟩ => content.drop position
  | .file _ => []
  | .pipe held => held.settle.text

end Reformat.Shell
