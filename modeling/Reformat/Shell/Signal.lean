import Reformat.Text.Decimal

/-!
Signals: their numbers and names, and what a shell prints of a program that one of them has ended.
-/

namespace Reformat.Shell.Signal

/-- The names of the signals from one on. -/
def names : List Text :=
  ["HUP", "INT", "QUIT", "ILL", "TRAP", "ABRT", "BUS", "FPE", "KILL", "USR1", "SEGV", "USR2",
    "PIPE", "ALRM", "TERM", "16", "CHLD", "CONT", "STOP", "TSTP", "TTIN", "TTOU", "URG", "XCPU",
    "XFSZ", "VTALRM", "PROF", "WINCH", "IO", "PWR", "SYS"].map String.toList

/-- More than any signal. -/
def bound : Nat :=
  65

/-- The name of a signal, or of the end of the shell. -/
def name (signal : Nat) : Text :=
  match signal with
  | 0 => "EXIT".toList
  | index + 1 => (names[index]?).getD (Text.Decimal.write signal)

/-- The signal that a number or a name in any case stands for. -/
def read? (text : Text) : Option Nat :=
  match Text.Decimal.digits? text with
  | some number => if number < bound then some number else none
  | none =>
      let upper := text.map Char.toUpper
      if upper == "EXIT".toList then
        some 0
      else
        (names.findIdx? (· == upper)).map (· + 1)

/-- Whether a signal leaves a program alone that does not expect it. -/
def isHarmless (signal : Nat) : Bool :=
  signal ∈ [0, 17, 18, 19, 20, 21, 22, 23, 28]

/-- Whether a signal ends a program whatever it expects. -/
def isCertain (signal : Nat) : Bool :=
  signal = 9

/-- What is printed of a program that a signal has ended. -/
def description (signal : Nat) : Text :=
  let known : List (Nat × String) :=
    [(1, "Hangup"), (3, "Quit"), (4, "Illegal instruction"), (5, "Trace/breakpoint trap"),
      (6, "Aborted"), (7, "Bus error"), (8, "Floating point exception"), (9, "Killed"),
      (10, "User defined signal 1"), (11, "Segmentation fault"), (12, "User defined signal 2"),
      (14, "Alarm clock"), (15, "Terminated"), (24, "CPU time limit exceeded"),
      (25, "File size limit exceeded"), (26, "Virtual timer expired"),
      (27, "Profiling timer expired"), (29, "I/O possible"), (30, "Power failure"),
      (31, "Bad system call")]
  match known.lookup signal with
  | some text => text.toList ++ ['\n']
  | none => []

end Reformat.Shell.Signal
