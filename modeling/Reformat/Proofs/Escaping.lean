import Mathlib.Logic.Basic
import Reformat.Replacements.Printer
import Reformat.Text.CharRef

/-!
Escaped text. Main statements: it holds no `<`, and decoding its references gives the text, also
where the text looks like references itself.
-/

namespace Reformat.Replacements

open Text.CharRef

theorem escapeChar_of_plain {c : Char}
    (ampersand : c ≠ '&') (less : c ≠ '<') (newline : c ≠ '\n') (carriageReturn : c ≠ '\r') :
    escapeChar c = [c] := by
  unfold escapeChar
  rw [if_neg ampersand, if_neg less, if_neg newline, if_neg carriageReturn]

/-- What is written for a character is read as that character, whatever stands behind it. -/
theorem decodeFrom_escapeChar (c : Char) (rest : Text) :
    decodeFrom none (escapeChar c ++ rest) = c :: decodeFrom none rest := by
  rcases eq_or_ne c '&' with rfl | ampersand
  · rfl
  rcases eq_or_ne c '<' with rfl | less
  · rfl
  rcases eq_or_ne c '\n' with rfl | newline
  · rfl
  rcases eq_or_ne c '\r' with rfl | carriageReturn
  · rfl
  rw [escapeChar_of_plain ampersand less newline carriageReturn, List.singleton_append,
    decodeFrom, if_neg ampersand]

theorem decode_escape (text : Text) : decode (escape text) = text := by
  unfold decode escape
  induction text with
  | nil => rfl
  | cons head tail ih => rw [List.flatMap_cons, decodeFrom_escapeChar, ih]

theorem less_not_mem_escapeChar (c : Char) : '<' ∉ escapeChar c := by
  rcases eq_or_ne c '&' with rfl | ampersand
  · decide
  rcases eq_or_ne c '<' with rfl | less
  · decide
  rcases eq_or_ne c '\n' with rfl | newline
  · decide
  rcases eq_or_ne c '\r' with rfl | carriageReturn
  · decide
  rw [escapeChar_of_plain ampersand less newline carriageReturn, List.mem_singleton]
  exact less.symm

theorem less_not_mem_escape (text : Text) : '<' ∉ escape text := by
  intro member
  obtain ⟨c, -, found⟩ := List.mem_flatMap.mp member
  exact less_not_mem_escapeChar c found

theorem escape_eq_nil_iff {text : Text} : escape text = [] ↔ text = [] := by
  constructor
  · intro empty
    rw [← decode_escape text, empty]
    rfl
  · rintro rfl
    rfl

end Reformat.Replacements
