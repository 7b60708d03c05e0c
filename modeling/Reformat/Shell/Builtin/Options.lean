import Reformat.Shell.Effect
import Reformat.Shell.Options

/-!
The options of the commands of a shell, and the way it writes a text so that it can read it back.
-/

namespace Reformat.Shell

/-- A command of the shell, which gives its status. -/
abbrev Builtin := List Text → Effect Nat

namespace Builtin

open Effect

/-- The options in front of the first operand, and the operands. -/
def given (flags valued : List Char) (arguments : List Text) : Effect Given :=
  match Options.read ⟨flags, valued, true⟩ arguments with
  | .ok given => return given
  | .error (.lacking letter) => fail ("No arg for -".toList ++ letter :: " option".toList)
  | .error (.unknown letter) => fail ("Illegal option -".toList ++ [letter])
  | .error (.unknownName _) => fail "Illegal option --".toList

/-- Text in quotes, of which the single ones stand in double ones. -/
def quotedWithin : Nat → Text → Text
  | 0, _ => []
  | fuel + 1, text =>
      let plain := text.takeWhile (· ≠ '\'')
      let rest := text.drop plain.length
      let quotes := rest.takeWhile (· = '\'')
      let more := rest.drop quotes.length
      '\'' :: plain ++ '\'' ::
        if quotes.isEmpty then
          []
        else
          '"' :: quotes ++ '"' :: if more.isEmpty then [] else quotedWithin fuel more

/-- Text as it can be read back. -/
def quoted (text : Text) : Text :=
  quotedWithin (text.length + 1) text

/-- Writes the output of a command with a status. -/
def deliver (text : Text) (status : Nat) : Effect Nat := do
  say text
  return status

end Builtin

end Reformat.Shell
