import Reformat.Text.Utf8

/-!
Options: clusters of letters behind one dash, with values or without, and the operands among which they
stand.
-/

namespace Reformat.Shell

/-- What arguments tell: letters with their values, which are empty where there are none, and
operands. -/
structure Given where
  options : List (Char × Text)
  operands : List Text

namespace Given

def has (given : Given) (letter : Char) : Bool :=
  given.options.any fun option => option.1 == letter

/-- The value of an option, the last one if there are several. -/
def value? (given : Given) (letter : Char) : Option Text :=
  given.options.reverse.lookup letter

end Given

/-- Why arguments are not understood. -/
inductive Misuse where
  | unknown (letter : Char)
  | unknownName (name : Text)
  | lacking (letter : Char)
deriving DecidableEq, Repr

/-- The letters that are options, and those of them that take a value. -/
structure Options where
  flags : List Char
  valued : List Char
  /-- Whether the first operand ends the options. -/
  leading : Bool

namespace Options

/-- What a cluster of letters tells, the last one of which may take its value from the arguments behind
it, and the arguments that are left. -/
def cluster (options : Options) (rest : List Text) :
    Text → Except Misuse (List (Char × Text) × List Text)
  | [] => return ([], rest)
  | letter :: letters =>
      if options.valued.contains letter then
        match letters, rest with
        | _ :: _, _ => return ([(letter, letters)], rest)
        | [], value :: rest => return ([(letter, value)], rest)
        | [], [] => throw (.lacking letter)
      else if options.flags.contains letter then do
        let (others, rest) ← options.cluster rest letters
        return ((letter, []) :: others, rest)
      else
        throw (.unknown letter)

def readWithin (options : Options) : Nat → List Text → Except Misuse Given
  | 0, arguments => return ⟨[], arguments⟩
  | _ + 1, [] => return ⟨[], []⟩
  | fuel + 1, argument :: rest => do
      match argument with
      | ['-', '-'] => return ⟨[], rest⟩
      | '-' :: '-' :: name => throw (.unknownName name)
      | '-' :: letter :: letters =>
          let (own, rest) ← options.cluster rest (letter :: letters)
          let others ← options.readWithin fuel rest
          return { others with options := own ++ others.options }
      | operand =>
          if options.leading then
            return ⟨[], operand :: rest⟩
          let others ← options.readWithin fuel rest
          return { others with operands := operand :: others.operands }

/-- What arguments tell, of which no more can be options than there are. -/
def read (options : Options) (arguments : List Text) : Except Misuse Given :=
  options.readWithin (arguments.length + 1) arguments

end Options

end Reformat.Shell
