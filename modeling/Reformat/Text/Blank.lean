import Reformat.Text.Utf8

/-!
White space: which characters count as blank, the words and the lines of a text.
-/

namespace Reformat.Text

def isBlank (c : Char) : Bool :=
  (0x09 ≤ c.toNat && c.toNat ≤ 0x0D) || c.toNat == 0x20 || c.toNat == 0x85 ||
    c.toNat == 0xA0 || c.toNat == 0x1680 || (0x2000 ≤ c.toNat && c.toNat ≤ 0x200A) ||
    c.toNat == 0x2028 || c.toNat == 0x2029 || c.toNat == 0x202F || c.toNat == 0x205F ||
    c.toNat == 0x3000

/-- The text without the blanks at its two ends. -/
def trim (text : Text) : Text :=
  ((text.dropWhile isBlank).reverse.dropWhile isBlank).reverse

/-- The longest pieces that hold no blank. -/
def words (text : Text) : List Text :=
  (text.splitOnP isBlank).filter fun piece => !piece.isEmpty

/-- The lines of a text without their ends, which are `\n` or `\r\n`. -/
def lines : Text → List Text
  | [] => []
  | '\n' :: rest => [] :: lines rest
  | '\r' :: '\n' :: rest => [] :: lines rest
  | c :: rest =>
      match lines rest with
      | [] => [[c]]
      | line :: others => (c :: line) :: others

theorem trim_eq_self {text : Text} (plain : ∀ c ∈ text, isBlank c = false) : trim text = text := by
  have kept {front : Text} (plain : ∀ c ∈ front, isBlank c = false) :
      front.dropWhile isBlank = front := by
    cases front with
    | nil => rfl
    | cons head tail =>
        exact List.dropWhile_cons_of_neg (by simp [plain head List.mem_cons_self])
  have reversed : ∀ c ∈ text.reverse, isBlank c = false :=
    fun c member => plain c (List.mem_reverse.mp member)
  rw [trim, kept plain, kept reversed, List.reverse_reverse]

end Reformat.Text
