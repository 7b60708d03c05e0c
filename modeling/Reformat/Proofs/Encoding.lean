import Mathlib.Data.List.Basic
import Reformat.Document.LineEnding

/-!
Text as bytes. Main statements: bytes are read as a text just where they are its encoding, and it
is the same to drop the CRs of line breaks from a text or from its bytes.
-/

namespace Reformat

namespace Utf8

/-! ## The bytes of one character -/

namespace Pending

/-- The number under way with the six bits of another byte. -/
def extended (begun : Pending) (byte : UInt8) : Nat :=
  begun.value * 64 + (byte.toNat - 0x80)

def next (begun : Pending) (byte : UInt8) : Pending :=
  ⟨begun.extended byte, begun.missing - 1, 0x80, 0xBF⟩

def Takes (begun : Pending) (byte : UInt8) : Prop :=
  begun.low ≤ byte.toNat ∧ byte.toNat ≤ begun.high

/-- The bytes that complete a character, and its number. -/
inductive Completes : Pending → Bytes → Nat → Prop
  | last {begun : Pending} {byte : UInt8} {value : Nat} :
      begun.Takes byte →
      begun.missing ≤ 1 →
      begun.extended byte = value →
      Completes begun [byte] value
  | more {begun : Pending} {byte : UInt8} {bytes : Bytes} {value : Nat} :
      begun.Takes byte →
      ¬ begun.missing ≤ 1 →
      Completes (begun.next byte) bytes value →
      Completes begun (byte :: bytes) value

end Pending

theorem read_cons (pending : Option Pending) (byte : UInt8) (rest : Bytes) :
    read pending (byte :: rest) =
      (step pending byte.toNat).1 ++ read (step pending byte.toNat).2 rest := by
  cases pending with
  | none => rfl
  | some begun => rfl

section

variable {begun : Pending} {byte : UInt8}

theorem step_last (takes : begun.Takes byte) (single : begun.missing ≤ 1) :
    step (some begun) byte.toNat = ([some (Char.ofNat (begun.extended byte))], none) := by
  exact (if_pos takes).trans (if_pos single)

theorem step_more (takes : begun.Takes byte) (several : ¬ begun.missing ≤ 1) :
    step (some begun) byte.toNat = ([], some (begun.next byte)) := by
  exact (if_pos takes).trans (if_neg several)

theorem step_broken (broken : ¬ begun.Takes byte) :
    step (some begun) byte.toNat = (none :: (lead byte.toNat).1, (lead byte.toNat).2) := by
  exact if_neg broken

end

theorem read_append_of_completes {begun : Pending} {bytes : Bytes} {value : Nat}
    (completes : begun.Completes bytes value) (rest : Bytes) :
    read (some begun) (bytes ++ rest) = some (Char.ofNat value) :: read none rest := by
  induction completes with
  | last takes single done =>
      rw [List.singleton_append, read_cons, step_last takes single, done]
      rfl
  | more takes several _ ih =>
      rw [List.cons_append, read_cons, step_more takes several]
      exact ih

/-- What is read as text in the middle of a character goes on with the rest of that character. -/
theorem exists_completes_of_read {begun : Pending} {bytes : Bytes} {text : Text}
    (whole : read (some begun) bytes = text.map some) :
    ∃ front value rest tail,
      bytes = front ++ rest ∧ begun.Completes front value ∧
        text = Char.ofNat value :: tail ∧ read none rest = tail.map some := by
  induction bytes generalizing begun with
  | nil =>
      have broken : none ∈ text.map some := by
        rw [← whole]
        exact List.mem_cons_self
      simp at broken
  | cons byte bytes ih =>
      rw [read_cons] at whole
      by_cases takes : begun.Takes byte
      · by_cases single : begun.missing ≤ 1
        · rw [step_last takes single] at whole
          cases text with
          | nil => simp at whole
          | cons head tail =>
              obtain ⟨first, behind⟩ := List.cons.inj whole
              refine ⟨[byte], _, bytes, tail, rfl, .last takes single rfl, ?_, behind⟩
              rw [Option.some.inj first]
        · rw [step_more takes single] at whole
          obtain ⟨front, value, rest, tail, rfl, completes, shape, behind⟩ := ih whole
          exact ⟨byte :: front, value, rest, tail, rfl, .more takes single completes, shape, behind⟩
      · have broken : none ∈ text.map some := by
          rw [← whole, step_broken takes]
          exact List.mem_cons_self
        simp at broken

/-- The first of several bytes tells how many there are, and bounds the next one. -/
inductive Begins (byte : UInt8) : Pending → Prop
  | two : 0xC2 ≤ byte.toNat → byte.toNat < 0xE0 → Begins byte ⟨byte.toNat - 0xC0, 1, 0x80, 0xBF⟩
  | three : 0xE0 ≤ byte.toNat → byte.toNat < 0xF0 →
      Begins byte ⟨byte.toNat - 0xE0, 2, if byte.toNat = 0xE0 then 0xA0 else 0x80,
        if byte.toNat = 0xED then 0x9F else 0xBF⟩
  | four : 0xF0 ≤ byte.toNat → byte.toNat < 0xF5 →
      Begins byte ⟨byte.toNat - 0xF0, 3, if byte.toNat = 0xF0 then 0x90 else 0x80,
        if byte.toNat = 0xF4 then 0x8F else 0xBF⟩

theorem lead_of_begins {byte : UInt8} {begun : Pending} (begins : Begins byte begun) :
    lead byte.toNat = ([], some begun) := by
  unfold lead
  cases begins with
  | two least bound =>
      rw [if_neg (by omega), if_neg (by omega), if_pos bound]
  | three least bound =>
      rw [if_neg (by omega), if_neg (by omega), if_neg (by omega), if_pos bound]
  | four least bound =>
      rw [if_neg (by omega), if_neg (by omega), if_neg (by omega), if_neg (by omega), if_pos bound]

theorem lead_cases (byte : UInt8) :
    (byte.toNat < 0x80 ∧ lead byte.toNat = ([some (Char.ofNat byte.toNat)], none)) ∨
      lead byte.toNat = ([none], none) ∨
        ∃ begun, Begins byte begun := by
  unfold lead
  by_cases one : byte.toNat < 0x80
  · exact Or.inl ⟨one, if_pos one⟩
  · by_cases loose : byte.toNat < 0xC2
    · exact Or.inr (Or.inl (by rw [if_neg one, if_pos loose]))
    · by_cases two : byte.toNat < 0xE0
      · exact Or.inr (Or.inr ⟨_, .two (by omega) two⟩)
      · by_cases three : byte.toNat < 0xF0
        · exact Or.inr (Or.inr ⟨_, .three (by omega) three⟩)
        · by_cases four : byte.toNat < 0xF5
          · exact Or.inr (Or.inr ⟨_, .four (by omega) four⟩)
          · refine Or.inr (Or.inl ?_)
            rw [if_neg one, if_neg loose, if_neg two, if_neg three, if_neg four]

section

variable {value : Nat} {byte second third fourth : UInt8}

theorem exists_completes_two
    (least : 0x80 ≤ value) (bound : value < 0x800)
    (first : byte.toNat = value / 64 % 32 + 192)
    (next : second.toNat = value % 64 + 128) :
    ∃ begun, Begins byte begun ∧ begun.Completes [second] value := by
  refine ⟨_, .two (by omega) (by omega), .last ⟨?_, ?_⟩ (Nat.le_refl 1) ?_⟩
  · show 0x80 ≤ second.toNat
    omega
  · show second.toNat ≤ 0xBF
    omega
  · show (byte.toNat - 0xC0) * 64 + (second.toNat - 0x80) = value
    omega

theorem exists_completes_three
    (least : 0x800 ≤ value) (bound : value < 0x10000)
    (whole : value < 0xD800 ∨ 0xDFFF < value)
    (first : byte.toNat = value / 4096 % 16 + 224)
    (next : second.toNat = value / 64 % 64 + 128)
    (last : third.toNat = value % 64 + 128) :
    ∃ begun, Begins byte begun ∧ begun.Completes [second, third] value := by
  refine ⟨_, .three (by omega) (by omega),
    .more ⟨?_, ?_⟩ (by simp) (.last ⟨?_, ?_⟩ (Nat.le_refl 1) ?_)⟩
  · show (if byte.toNat = 0xE0 then 0xA0 else 0x80) ≤ second.toNat
    split <;> omega
  · show second.toNat ≤ if byte.toNat = 0xED then 0x9F else 0xBF
    split <;> omega
  · show 0x80 ≤ third.toNat
    omega
  · show third.toNat ≤ 0xBF
    omega
  · show ((byte.toNat - 0xE0) * 64 + (second.toNat - 0x80)) * 64 + (third.toNat - 0x80) = value
    omega

theorem exists_completes_four
    (least : 0x10000 ≤ value) (bound : value < 0x110000)
    (first : byte.toNat = value / 262144 % 8 + 240)
    (next : second.toNat = value / 4096 % 64 + 128)
    (after : third.toNat = value / 64 % 64 + 128)
    (last : fourth.toNat = value % 64 + 128) :
    ∃ begun, Begins byte begun ∧ begun.Completes [second, third, fourth] value := by
  refine ⟨_, .four (by omega) (by omega),
    .more ⟨?_, ?_⟩ (by simp) (.more ⟨?_, ?_⟩ (by simp [Pending.next])
      (.last ⟨?_, ?_⟩ (Nat.le_refl 1) ?_))⟩
  · show (if byte.toNat = 0xF0 then 0x90 else 0x80) ≤ second.toNat
    split <;> omega
  · show second.toNat ≤ if byte.toNat = 0xF4 then 0x8F else 0xBF
    split <;> omega
  · show 0x80 ≤ third.toNat
    omega
  · show third.toNat ≤ 0xBF
    omega
  · show 0x80 ≤ fourth.toNat
    omega
  · show fourth.toNat ≤ 0xBF
    omega
  · show (((byte.toNat - 0xF0) * 64 + (second.toNat - 0x80)) * 64 + (third.toNat - 0x80)) * 64 +
      (fourth.toNat - 0x80) = value
    omega

end

/-- A character is one byte, or several of which the first begins it and the others complete it. -/
theorem encodeChar_cases (c : Char) :
    (∃ byte : UInt8, String.utf8EncodeChar c = [byte] ∧ byte.toNat < 0x80 ∧ byte.toNat = c.toNat) ∨
      ∃ byte begun bytes,
        String.utf8EncodeChar c = byte :: bytes ∧ 0x80 ≤ c.toNat ∧ Begins byte begun ∧
          begun.Completes bytes c.toNat := by
  have valid : c.toNat < 0xD800 ∨ 0xDFFF < c.toNat ∧ c.toNat < 0x110000 := c.valid
  have number : c.val.toNat = c.toNat := rfl
  have small (n : Nat) (bound : n < 256) : (UInt8.ofNat n).toNat = n :=
    Nat.mod_eq_of_lt bound
  generalize c.toNat = value at valid number
  unfold String.utf8EncodeChar
  simp only [number]
  by_cases one : value ≤ 127
  · have same := small value (by omega)
    exact Or.inl ⟨_, if_pos one, by omega, same⟩
  right
  rw [if_neg one]
  by_cases two : value ≤ 2047
  · obtain ⟨begun, begins, completes⟩ :=
      exists_completes_two (by omega) (by omega)
        (small (value / 64 % 32 + 192) (by omega)) (small (value % 64 + 128) (by omega))
    exact ⟨_, begun, _, if_pos two, by omega, begins, completes⟩
  rw [if_neg two]
  by_cases three : value ≤ 65535
  · obtain ⟨begun, begins, completes⟩ :=
      exists_completes_three (by omega) (by omega) (by omega)
        (small (value / 4096 % 16 + 224) (by omega))
        (small (value / 64 % 64 + 128) (by omega)) (small (value % 64 + 128) (by omega))
    exact ⟨_, begun, _, if_pos three, by omega, begins, completes⟩
  · obtain ⟨begun, begins, completes⟩ :=
      exists_completes_four (by omega) (by omega)
        (small (value / 262144 % 8 + 240) (by omega))
        (small (value / 4096 % 64 + 128) (by omega))
        (small (value / 64 % 64 + 128) (by omega)) (small (value % 64 + 128) (by omega))
    exact ⟨_, begun, _, if_neg three, by omega, begins, completes⟩

theorem val_ofNat {value : Nat} (valid : value.isValidChar) :
    (Char.ofNat value).val.toNat = value := by
  unfold Char.ofNat
  rw [dif_pos valid]
  rfl

theorem ofNat_of_toNat_eq (byte : UInt8) {number : Nat} (equal : byte.toNat = number) :
    UInt8.ofNat number = byte := by
  rw [← equal]
  exact UInt8.ofNat_toNat

section

variable {value : Nat} {byte second third fourth : UInt8}

theorem encodeChar_one (ascii : byte.toNat < 0x80) :
    String.utf8EncodeChar (Char.ofNat byte.toNat) = [byte] := by
  have held : (Char.ofNat byte.toNat).val.toNat = byte.toNat := val_ofNat (Or.inl (by omega))
  unfold String.utf8EncodeChar
  simp only [held]
  rw [if_pos (by omega), UInt8.ofNat_toNat]

theorem encodeChar_two
    (least : 0xC2 ≤ byte.toNat) (bound : byte.toNat < 0xE0)
    (low : 0x80 ≤ second.toNat) (high : second.toNat ≤ 0xBF)
    (number : (byte.toNat - 0xC0) * 64 + (second.toNat - 0x80) = value) :
    String.utf8EncodeChar (Char.ofNat value) = [byte, second] := by
  have held : (Char.ofNat value).val.toNat = value := val_ofNat (Or.inl (by omega))
  unfold String.utf8EncodeChar
  simp only [held]
  rw [if_neg (by omega), if_pos (by omega), ofNat_of_toNat_eq byte (by omega),
    ofNat_of_toNat_eq second (by omega)]

theorem encodeChar_three
    (least : 0xE0 ≤ byte.toNat) (bound : byte.toNat < 0xF0)
    (low : (if byte.toNat = 0xE0 then 0xA0 else 0x80) ≤ second.toNat)
    (high : second.toNat ≤ if byte.toNat = 0xED then 0x9F else 0xBF)
    (thirdLow : 0x80 ≤ third.toNat) (thirdHigh : third.toNat ≤ 0xBF)
    (number :
      ((byte.toNat - 0xE0) * 64 + (second.toNat - 0x80)) * 64 + (third.toNat - 0x80) = value) :
    String.utf8EncodeChar (Char.ofNat value) = [byte, second, third] := by
  have bounds : 0x80 ≤ second.toNat ∧ second.toNat ≤ 0xBF := by
    split at low <;> split at high <;> omega
  have wide : 0x800 ≤ value := by
    split at low <;> omega
  have valid : value.isValidChar := by
    unfold Nat.isValidChar
    split at high <;> omega
  unfold String.utf8EncodeChar
  simp only [val_ofNat valid]
  rw [if_neg (by omega), if_neg (by omega), if_pos (by omega),
    ofNat_of_toNat_eq byte (by omega), ofNat_of_toNat_eq second (by omega),
    ofNat_of_toNat_eq third (by omega)]

theorem encodeChar_four
    (least : 0xF0 ≤ byte.toNat) (bound : byte.toNat < 0xF5)
    (low : (if byte.toNat = 0xF0 then 0x90 else 0x80) ≤ second.toNat)
    (high : second.toNat ≤ if byte.toNat = 0xF4 then 0x8F else 0xBF)
    (thirdLow : 0x80 ≤ third.toNat) (thirdHigh : third.toNat ≤ 0xBF)
    (fourthLow : 0x80 ≤ fourth.toNat) (fourthHigh : fourth.toNat ≤ 0xBF)
    (number :
      (((byte.toNat - 0xF0) * 64 + (second.toNat - 0x80)) * 64 + (third.toNat - 0x80)) * 64 +
        (fourth.toNat - 0x80) = value) :
    String.utf8EncodeChar (Char.ofNat value) = [byte, second, third, fourth] := by
  have bounds : 0x80 ≤ second.toNat ∧ second.toNat ≤ 0xBF := by
    split at low <;> split at high <;> omega
  have wide : 0x10000 ≤ value := by
    split at low <;> omega
  have valid : value.isValidChar := by
    unfold Nat.isValidChar
    split at high <;> omega
  unfold String.utf8EncodeChar
  simp only [val_ofNat valid]
  rw [if_neg (by omega), if_neg (by omega), if_neg (by omega),
    ofNat_of_toNat_eq byte (by omega), ofNat_of_toNat_eq second (by omega),
    ofNat_of_toNat_eq third (by omega), ofNat_of_toNat_eq fourth (by omega)]

end

section

variable {begun : Pending} {bytes : Bytes} {value : Nat}

theorem Pending.Completes.single
    (completes : begun.Completes bytes value) (single : begun.missing ≤ 1) :
    ∃ byte, bytes = [byte] ∧ begun.Takes byte ∧ begun.extended byte = value := by
  cases completes with
  | last takes _ done => exact ⟨_, rfl, takes, done⟩
  | more _ several _ => exact absurd single several

theorem Pending.Completes.several
    (completes : begun.Completes bytes value) (several : ¬ begun.missing ≤ 1) :
    ∃ byte rest, bytes = byte :: rest ∧ begun.Takes byte ∧
      (begun.next byte).Completes rest value := by
  cases completes with
  | last _ single _ => exact absurd single several
  | more takes _ rest => exact ⟨_, _, rfl, takes, rest⟩

theorem encodeChar_of_completes {byte : UInt8}
    (begins : Begins byte begun) (completes : begun.Completes bytes value) :
    String.utf8EncodeChar (Char.ofNat value) = byte :: bytes := by
  cases begins with
  | two least bound =>
      obtain ⟨second, rfl, takes, done⟩ := completes.single (Nat.le_refl 1)
      exact encodeChar_two least bound takes.1 takes.2 done
  | three least bound =>
      obtain ⟨second, _, rfl, takes, rest⟩ := completes.several (by simp)
      obtain ⟨third, rfl, thirdTakes, done⟩ := rest.single (Nat.le_refl 1)
      exact encodeChar_three least bound takes.1 takes.2 thirdTakes.1 thirdTakes.2 done
  | four least bound =>
      obtain ⟨second, _, rfl, takes, rest⟩ := completes.several (by simp)
      obtain ⟨third, _, rfl, thirdTakes, rest⟩ := rest.several (by simp [Pending.next])
      obtain ⟨fourth, rfl, fourthTakes, done⟩ := rest.single (Nat.le_refl 1)
      exact encodeChar_four least bound takes.1 takes.2 thirdTakes.1 thirdTakes.2 fourthTakes.1
        fourthTakes.2 done

end

/-! ## Text as a whole -/

/-- A character that is complete is read, whatever comes behind it. -/
theorem read_encodeChar_append (c : Char) (rest : Bytes) :
    read none (String.utf8EncodeChar c ++ rest) = some c :: read none rest := by
  rcases encodeChar_cases c with
    ⟨byte, encoded, ascii, number⟩ | ⟨byte, begun, bytes, encoded, -, begins, completes⟩
  · have alone : lead byte.toNat = ([some (Char.ofNat byte.toNat)], none) := if_pos ascii
    rw [encoded, List.singleton_append, read_cons, step, alone, number, Char.ofNat_toNat]
    rfl
  · rw [encoded, List.cons_append, read_cons, step, lead_of_begins begins]
    have whole := read_append_of_completes completes rest
    rw [Char.ofNat_toNat] at whole
    exact whole

theorem read_encode (text : Text) : read none (encode text) = text.map some := by
  induction text with
  | nil => rfl
  | cons head tail ih => rw [encode_cons, read_encodeChar_append, ih, List.map_cons]

/-- What is read as text begins with all bytes of its first character. -/
theorem exists_encodeChar_of_read {byte : UInt8} {rest : Bytes} {text : Text}
    (whole : read none (byte :: rest) = text.map some) :
    ∃ c behind tail,
      byte :: rest = String.utf8EncodeChar c ++ behind ∧ text = c :: tail ∧
        read none behind = tail.map some := by
  rw [read_cons, step] at whole
  rcases lead_cases byte with ⟨ascii, single⟩ | broken | ⟨begun, begins⟩
  · rw [single] at whole
    cases text with
    | nil => simp at whole
    | cons head tail =>
        obtain ⟨first, kept⟩ := List.cons.inj whole
        have encoded : String.utf8EncodeChar head = [byte] := by
          rw [← Option.some.inj first]
          exact encodeChar_one ascii
        exact ⟨head, rest, tail, by rw [encoded]; rfl, rfl, kept⟩
  · have unread : none ∈ text.map some := by
      rw [← whole, broken]
      exact List.mem_cons_self
    simp at unread
  · rw [lead_of_begins begins] at whole
    obtain ⟨front, value, behind, tail, rfl, completes, shape, kept⟩ :=
      exists_completes_of_read whole
    refine ⟨Char.ofNat value, behind, tail, ?_, shape, kept⟩
    rw [encodeChar_of_completes begins completes]
    rfl

theorem encode_of_read {bytes : Bytes} {text : Text}
    (whole : read none bytes = text.map some) :
    encode text = bytes := by
  induction text generalizing bytes with
  | nil =>
      cases bytes with
      | nil => rfl
      | cons byte rest =>
          obtain ⟨_, _, _, -, shape, -⟩ := exists_encodeChar_of_read whole
          exact absurd shape.symm (List.cons_ne_nil _ _)
  | cons head tail ih =>
      cases bytes with
      | nil => exact absurd whole.symm (List.cons_ne_nil _ _)
      | cons byte rest =>
          obtain ⟨_, behind, _, bytes, shape, kept⟩ := exists_encodeChar_of_read whole
          obtain ⟨rfl, rfl⟩ := List.cons.inj shape
          rw [bytes, encode_cons, ih kept]

theorem mapM_id_eq_some_iff {α : Type} {items : List (Option α)} {values : List α} :
    items.mapM id = some values ↔ items = values.map some := by
  induction items generalizing values with
  | nil =>
      cases values with
      | nil => simp
      | cons value values => simp
  | cons head tail ih =>
      cases values with
      | nil => simp [Option.bind_eq_some_iff]
      | cons value values => simp [Option.bind_eq_some_iff, ih]

/-- Bytes are a text just where they are what it is encoded as. -/
theorem decode?_eq_some_iff {bytes : Bytes} {text : Text} :
    decode? bytes = some text ↔ encode text = bytes := by
  unfold decode?
  rw [mapM_id_eq_some_iff]
  constructor
  · exact encode_of_read
  · rintro rfl
    exact read_encode text

@[simp]
theorem decode?_encode (text : Text) : decode? (encode text) = some text :=
  decode?_eq_some_iff.mpr rfl

theorem encode_inj {first second : Text} : encode first = encode second ↔ first = second := by
  constructor
  · intro same
    have read := decode?_encode first
    rw [same, decode?_encode] at read
    exact (Option.some.inj read).symm
  · rintro rfl
    rfl

/-! ## Single bytes -/

theorem Begins.least {byte : UInt8} {begun : Pending} (begins : Begins byte begun) :
    0x80 ≤ byte.toNat ∧ 0x80 ≤ begun.low := by
  cases begins with
  | two least bound => exact ⟨by omega, Nat.le_refl _⟩
  | three least bound =>
      refine ⟨by omega, ?_⟩
      show 0x80 ≤ if byte.toNat = 0xE0 then 0xA0 else 0x80
      split <;> omega
  | four least bound =>
      refine ⟨by omega, ?_⟩
      show 0x80 ≤ if byte.toNat = 0xF0 then 0x90 else 0x80
      split <;> omega

theorem Pending.Completes.least {begun : Pending} {bytes : Bytes} {value : Nat}
    (completes : begun.Completes bytes value) (low : 0x80 ≤ begun.low) :
    ∀ byte ∈ bytes, 0x80 ≤ byte.toNat := by
  induction completes with
  | last takes _ _ =>
      intro byte member
      rw [List.mem_singleton.mp member]
      exact Nat.le_trans low takes.1
  | more takes _ _ ih =>
      intro byte member
      rcases List.mem_cons.mp member with rfl | behind
      · exact Nat.le_trans low takes.1
      · exact ih (Nat.le_refl _) byte behind

/-- An ASCII byte stands for its own character and is no part of any other. -/
theorem mem_encodeChar_iff {byte : UInt8} (ascii : byte.toNat < 0x80) (c : Char) :
    byte ∈ String.utf8EncodeChar c ↔ String.utf8EncodeChar c = [byte] ∧ c.toNat = byte.toNat := by
  rcases encodeChar_cases c with
    ⟨single, encoded, -, number⟩ | ⟨first, begun, bytes, encoded, wide, begins, completes⟩
  · rw [encoded, List.mem_singleton]
    constructor
    · rintro rfl
      exact ⟨rfl, number.symm⟩
    · rintro ⟨same, -⟩
      exact (List.cons.inj same).1.symm
  · obtain ⟨firstLeast, low⟩ := begins.least
    constructor
    · intro member
      rw [encoded, List.mem_cons] at member
      rcases member with rfl | behind
      · omega
      · have least := completes.least low byte behind
        omega
    · rintro ⟨-, number⟩
      omega

end Utf8

/-! ## Line breaks in bytes -/

theorem dropBefore_append
    {α : Type} [DecidableEq α] {first second : α} {front : List α} (absent : first ∉ front)
    (rest : List α) :
    dropBefore first second (front ++ rest) = front ++ dropBefore first second rest := by
  induction front with
  | nil => rfl
  | cons head tail ih =>
      rw [List.mem_cons, not_or] at absent
      have different : ¬ (head = first ∧ (tail ++ rest).head? = some second) :=
        fun both => absent.1 both.1.symm
      rw [List.cons_append, dropBefore, if_neg different, ih absent.2, List.cons_append]

theorem head?_encode_iff (text : Text) :
    (Utf8.encode text).head? = some 10 ↔ text.head? = some '\n' := by
  cases text with
  | nil => simp
  | cons head tail =>
      have ascii : (10 : UInt8).toNat < 0x80 := by decide
      rw [Utf8.encode_cons, List.head?_cons]
      constructor
      · intro first
        have member : 10 ∈ String.utf8EncodeChar head := by
          cases encoded : String.utf8EncodeChar head with
          | nil => exact absurd encoded String.utf8EncodeChar_ne_nil
          | cons byte bytes =>
              rw [encoded] at first
              rw [Option.some.inj first]
              exact List.mem_cons_self
        have number := ((Utf8.mem_encodeChar_iff ascii head).mp member).2
        exact congrArg some (Char.toNat_inj.mp number)
      · intro same
        rw [Option.some.inj same]
        rfl

/-- The breaks of a text and those of its bytes lose the same CRs. -/
theorem canonicalizeBytes_encode (host : Text) :
    canonicalizeBytes (Utf8.encode host) = Utf8.encode (canonicalize host) := by
  unfold canonicalizeBytes canonicalize
  induction host with
  | nil => rfl
  | cons head tail ih =>
      by_cases isReturn : head = '\r'
      · have encoded : String.utf8EncodeChar '\r' = [13] := by decide
        rw [Utf8.encode_cons, isReturn, encoded, List.singleton_append]
        by_cases newline : tail.head? = some '\n'
        · rw [dropBefore, if_pos ⟨rfl, (head?_encode_iff tail).mpr newline⟩, dropBefore,
            if_pos ⟨rfl, newline⟩, ih]
        · have other : ¬ (Utf8.encode tail).head? = some 10 :=
            fun same => newline ((head?_encode_iff tail).mp same)
          rw [dropBefore, if_neg fun both => other both.2, dropBefore,
            if_neg fun both => newline both.2, ih, Utf8.encode_cons, encoded,
            List.singleton_append]
      · have absent : (13 : UInt8) ∉ String.utf8EncodeChar head := by
          intro member
          have number := ((Utf8.mem_encodeChar_iff (by decide) head).mp member).2
          exact isReturn (Char.toNat_inj.mp number)
        rw [Utf8.encode_cons, dropBefore_append absent, ih, dropBefore,
          if_neg fun both => isReturn both.1, Utf8.encode_cons]

end Reformat
