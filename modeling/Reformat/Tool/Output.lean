import Reformat.Tool.Process

/-!
Reading what tools print. What cannot be read is blamed on the tool.
-/

namespace Reformat

/-- The output of a tool, which must be text. -/
def Completion.text (tool : Text) (completion : Completion) : Except Failure Text :=
  match Utf8.decode? completion.output with
  | some output => .ok output
  | none => .error (.malformed tool .notText)

/-- Reads the report of a tool. -/
def Replacements.ofOutput (tool output : Text) : Except Failure Batch :=
  match Replacements.parse output with
  | .ok batch => .ok batch
  | .error cause => .error (.malformed tool (.replacements cause))

/-- Reads the ranges that a tool printed. -/
def LineRange.ofOutput (tool output : Text) : Except Failure (List LineRange) :=
  match LineRange.readAll output with
  | .ok ranges => .ok ranges
  | .error cause => .error (.malformed tool (.lineRange cause))

end Reformat
