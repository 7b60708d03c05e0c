import Reformat.Text.Utf8

/-!
Numbers in decimal digits, as they are written and as they are read: reading takes one plus sign and
leading zeros, and nothing that does not fit 64 bits. Main statement: what is written reads back.
-/

namespace Reformat.Text.Decimal

def write (n : Nat) : Text :=
  Nat.toDigits 10 n

def digits? (text : Text) : Option Nat :=
  if !text.isEmpty && text.all Char.isDigit then
    some (Nat.ofDigitChars 10 text 0)
  else
    none

def read? (text : Text) : Option Nat :=
  let digits :=
    match text with
    | '+' :: rest => rest
    | _ => text
  (digits? digits).filter (· < UInt64.size)

theorem write_ne_nil (n : Nat) : write n ≠ [] :=
  List.ne_nil_of_length_pos Nat.length_toDigits_pos

theorem isDigit_of_mem_write
    {n : Nat} {c : Char} (member : c ∈ write n) :
    c.isDigit = true :=
  Nat.isDigit_of_mem_toDigits (by decide) (by decide) member

theorem digits?_write (n : Nat) : digits? (write n) = some n := by
  have digitsOnly : (write n).all Char.isDigit = true :=
    List.all_eq_true.2 fun _ member => isDigit_of_mem_write member
  have value : Nat.ofDigitChars 10 (write n) 0 = n :=
    Nat.ofDigitChars_ten_toDigits
  simp [digits?, digitsOnly, write_ne_nil, value]

theorem read?_write {n : Nat} (fits : n < UInt64.size) : read? (write n) = some n := by
  have noSign : ∀ rest, write n ≠ '+' :: rest := by
    intro rest equality
    have plus : '+' ∈ write n := by
      rw [equality]
      exact List.mem_cons_self
    exact absurd (isDigit_of_mem_write plus) (by decide)
  unfold read?
  split
  · rename_i rest equality
    exact absurd equality (noSign rest)
  · change (digits? (write n)).filter (· < UInt64.size) = some n
    rw [digits?_write]
    exact Option.filter_some_pos (decide_eq_true fits)

end Reformat.Text.Decimal
