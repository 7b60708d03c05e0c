import Reformat.Text.Blank
import Reformat.Text.Decimal
import Reformat.Text.Quoted
import Reformat.Text.Split

/-!
Ranges of lines, written `start:end`, and lists of them between blanks. Main statement: a range that
is written reads back.
-/

namespace Reformat

/-- Lines counted from one, both ends included. -/
structure LineRange where
  start : Nat
  stop : Nat
deriving DecidableEq, Repr

namespace LineRange

inductive Malformation where
  | noColon (token : Text)
  | start (token : Text)
  | stop (token : Text)
deriving DecidableEq, Repr

def Malformation.message : Malformation → Text
  | noColon token => "expected start:end, got ".toList ++ Text.Quoted.quote token
  | start token => "invalid start line in ".toList ++ Text.Quoted.quote token
  | stop token => "invalid end line in ".toList ++ Text.Quoted.quote token

def write (range : LineRange) : Text :=
  Text.Decimal.write range.start ++ ':' :: Text.Decimal.write range.stop

def read (token : Text) : Except Malformation LineRange :=
  match Text.splitOnce? ':' token with
  | none => throw (.noColon token)
  | some (first, last) =>
      match Text.Decimal.read? first, Text.Decimal.read? last with
      | none, _ => throw (.start token)
      | some _, none => throw (.stop token)
      | some start, some stop => return ⟨start, stop⟩

/-- The ranges of a text in order; the first token that is none is reported. -/
def readAll (output : Text) : Except Malformation (List LineRange) :=
  (Text.words output).mapM read

theorem colon_not_mem_write (n : Nat) : ':' ∉ Text.Decimal.write n := by
  intro member
  exact absurd (Text.Decimal.isDigit_of_mem_write member) (by decide)

theorem read_write
    {range : LineRange}
    (startFits : range.start < UInt64.size)
    (stopFits : range.stop < UInt64.size) :
    read (write range) = .ok range := by
  unfold read write
  rw [Text.splitOnce?_append (colon_not_mem_write range.start)]
  simp only [Text.Decimal.read?_write startFits, Text.Decimal.read?_write stopFits]
  rfl

end LineRange

end Reformat
