/-!
Text is a list of characters, the content of a file or a pipe a list of bytes, and UTF-8 leads from
one to the other. Main statements: the bytes of a text are as many as its `size`, and encoding and
`size` take an appended text part by part.
-/

namespace Reformat

abbrev Text := List Char

abbrev Bytes := List UInt8

namespace Utf8

def encode (text : Text) : Bytes :=
  text.flatMap String.utf8EncodeChar

/-- The number of bytes of the encoded text. -/
def size (text : Text) : Nat :=
  text.foldr (fun c rest => c.utf8Size + rest) 0

/-- A character of which the first bytes have been read. The next byte must lie between `low` and
`high`, and with it `missing` bytes are still to come. -/
structure Pending where
  value : Nat
  missing : Nat
  low : Nat
  high : Nat

/-- What a byte between two characters gives: a character of its own, `none` where it cannot begin
one, or a character to be completed. -/
def lead (byte : Nat) : List (Option Char) × Option Pending :=
  if byte < 0x80 then
    ([some (Char.ofNat byte)], none)
  else if byte < 0xC2 then
    ([none], none)
  else if byte < 0xE0 then
    ([], some ⟨byte - 0xC0, 1, 0x80, 0xBF⟩)
  else if byte < 0xF0 then
    ([], some ⟨byte - 0xE0, 2, if byte = 0xE0 then 0xA0 else 0x80,
      if byte = 0xED then 0x9F else 0xBF⟩)
  else if byte < 0xF5 then
    ([], some ⟨byte - 0xF0, 3, if byte = 0xF0 then 0x90 else 0x80,
      if byte = 0xF4 then 0x8F else 0xBF⟩)
  else
    ([none], none)

/-- A byte that does not fit the character under way ends it as broken and is read afresh. -/
def step (pending : Option Pending) (byte : Nat) : List (Option Char) × Option Pending :=
  match pending with
  | none => lead byte
  | some begun =>
      if begun.low ≤ byte ∧ byte ≤ begun.high then
        let value := begun.value * 64 + (byte - 0x80)
        if begun.missing ≤ 1 then
          ([some (Char.ofNat value)], none)
        else
          ([], some ⟨value, begun.missing - 1, 0x80, 0xBF⟩)
      else
        (none :: (lead byte).1, (lead byte).2)

/-- The characters of the bytes in order, with `none` for each run of bytes that begins a character
and does not complete it. -/
def read : Option Pending → Bytes → List (Option Char)
  | none, [] => []
  | some _, [] => [none]
  | pending, byte :: rest =>
      (step pending byte.toNat).1 ++ read (step pending byte.toNat).2 rest

/-- The text of bytes that are UTF-8 throughout. -/
def decode? (bytes : Bytes) : Option Text :=
  (read none bytes).mapM id

/-- The text of any bytes, with U+FFFD in place of each broken run. -/
def decodeLossy (bytes : Bytes) : Text :=
  (read none bytes).map fun found => found.getD '\uFFFD'

@[simp]
theorem size_nil : size [] = 0 := rfl

@[simp]
theorem size_cons (head : Char) (tail : Text) :
    size (head :: tail) = head.utf8Size + size tail := rfl

@[simp]
theorem size_append (left right : Text) :
    size (left ++ right) = size left + size right := by
  induction left with
  | nil => simp
  | cons head tail ih => rw [List.cons_append, size_cons, size_cons, ih, Nat.add_assoc]

@[simp]
theorem encode_nil : encode [] = [] := rfl

@[simp]
theorem encode_cons (head : Char) (tail : Text) :
    encode (head :: tail) = String.utf8EncodeChar head ++ encode tail := rfl

@[simp]
theorem encode_append (left right : Text) :
    encode (left ++ right) = encode left ++ encode right := by
  simp [encode]

theorem length_encode (text : Text) : (encode text).length = size text := by
  induction text with
  | nil => rfl
  | cons head tail ih =>
      simp [ih]

end Utf8

end Reformat
