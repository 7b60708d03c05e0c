import Reformat.Shell.Command
import Reformat.Shell.Mode
import Reformat.Shell.Stream
import Reformat.Tool.Recording

/-!
What a shell knows and what it shares with others. A subshell has a scope of its own, which is lost
when it ends; streams and files are common to all.
-/

namespace Reformat.Shell

/-! ## Tables -/

namespace Table

variable {α : Type}

/-- Puts something under a name. A name that is there already keeps its place. -/
def put (name : Text) (value : α) : List (Text × α) → List (Text × α)
  | [] => [(name, value)]
  | entry :: rest =>
      if entry.1 = name then
        (name, value) :: rest
      else
        entry :: put name value rest

def erase (name : Text) (table : List (Text × α)) : List (Text × α) :=
  table.filter fun entry => entry.1 ≠ name

end Table

/-! ## Scopes -/

structure Variable where
  value : Option Text
  exported : Bool
  readOnly : Bool

inductive Flag where
  | exitOnFailure
  | noPatterns
  | refuseUnset
  | trace
  | exportAll
  | keepFiles
  | parseOnly
  /-- A flag that changes nothing here. -/
  | idle (letter : Char)
deriving DecidableEq, Repr

/-- The flags with their names and letters, in the order of their list. Some have no letter. -/
def Flag.all : List (Option Char × Text × Flag) :=
  let lettered : List (Char × String × Flag) :=
    [('e', "errexit", .exitOnFailure), ('f', "noglob", .noPatterns), ('I', "ignoreeof", .idle 'I'),
      ('i', "interactive", .idle 'i'), ('m', "monitor", .idle 'm'), ('n', "noexec", .parseOnly),
      ('s', "stdin", .idle 's'), ('x', "xtrace", .trace), ('v', "verbose", .idle 'v'),
      ('V', "vi", .idle 'V'), ('E', "emacs", .idle 'E'), ('C', "noclobber", .keepFiles),
      ('a', "allexport", .exportAll), ('b', "notify", .idle 'b'), ('u', "nounset", .refuseUnset),
      ('p', "privileged", .idle 'p')]
  lettered.map (fun (letter, name, flag) => (some letter, name.toList, flag)) ++
    [(none, "nolog".toList, .idle 'L'), (none, "debug".toList, .idle 'D')]

/-- Where the options of a script are taken off its arguments: the place of the argument that is next,
counted from one, and how many characters have been read of the one before it, unless all have. -/
structure OptionPlace where
  index : Nat
  read : Nat
deriving DecidableEq, Repr

/-- The place in front of all arguments. -/
def OptionPlace.first : OptionPlace :=
  ⟨1, 0⟩

/-- How variables and flags were before a command changed them for itself alone. -/
structure Frame where
  bindings : List (Text × Option Variable)
  flags : Option (List Flag)

/-- What is copied when a subshell begins. -/
structure Scope where
  name : Text
  parameters : List Text
  /-- In the order in which they were made. -/
  bindings : List (Text × Variable)
  functions : List (Text × Command)
  /-- What is to be done on a signal; nothing at all for an empty action. -/
  traps : List (Nat × Text)
  handles : List (Nat × Handle)
  flags : List Flag
  directory : Location
  status : Nat
  line : Nat
  job : Option Nat
  process : Nat
  /-- The process of the shell itself, which may be a subshell, and those of the shells around it. -/
  shells : List Nat
  /-- The status behind which a trap runs, inside of one. -/
  trapStatus : Option Nat
  /-- Whether the command at hand is the last one of a process, which a program may take over. -/
  isFinal : Bool
  /-- The loops around the command at hand. -/
  loops : Nat
  /-- The functions around the command at hand. -/
  calls : Nat
  /-- What the commands around it are to restore at their ends, the innermost one first. -/
  frames : List Frame
  options : OptionPlace
  /-- The command that messages are about. -/
  commandName : Option Text
  /-- Why something could not be written that the command at hand has told. -/
  loss : Option Refusal
  /-- Whether the command at hand is a program, which is ended alone where nobody reads its output. -/
  isProgram : Bool

/-- A signal that a shell has yet to act upon. -/
structure Notice where
  process : Nat
  signal : Nat
deriving DecidableEq, Repr

structure State where
  scope : Scope
  streams : Array Stream
  tree : Tree
  /-- The tools that answer as they were recorded, and the calls of them. -/
  recordings : List Recording
  calls : List Call
  /-- The commands that were started beside the shell, and their ends. -/
  jobs : List (Nat × Termination)
  /-- The number of the last process. -/
  processes : Nat
  /-- The documents that scripts hold, by their numbers. -/
  documents : List (Nat × Word)
  /-- The number of the next document. -/
  documentNumber : Nat
  /-- The permissions of what does not have those that everything has at first. -/
  modes : List (Location × Mode)
  signals : List Notice
  /-- How much there is to be read of what has no end, and how much is written at most where it shows only
  later how much is read. -/
  endless : Nat
  /-- The status of the last script of which the output was taken, since a command began. -/
  outputStatus : Option Nat

end Reformat.Shell
