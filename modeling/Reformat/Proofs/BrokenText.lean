import Mathlib.Data.Nat.Find
import Reformat.Proofs.Encoding

/-!
Bytes that need not be a text. Main statement: read with replacements, they give each character
that is encoded in them and one U+FFFD for each run of bytes that is none, and nothing else.
-/

namespace Reformat

namespace Utf8

/-- The first bytes of a character, or all of them. -/
def IsPartial (bytes : Bytes) : Prop :=
  ∃ c, bytes <+: String.utf8EncodeChar c

/-- Bytes in front of others where no character stands. They are as many as begin one together, and
a single byte where even that begins none. -/
structure IsBroken (run rest : Bytes) : Prop where
  nonempty : run ≠ []
  unread : ∀ c, ¬ String.utf8EncodeChar c <+: run ++ rest
  begins : 1 < run.length → IsPartial run
  longest : ∀ longer, longer <+: run ++ rest → IsPartial longer → longer.length ≤ run.length

/-- What any bytes are as a text. -/
inductive ReadsLossy : Bytes → Text → Prop where
  | nil : ReadsLossy [] []
  | character (c : Char) {rest : Bytes} {text : Text} :
      ReadsLossy rest text →
      ReadsLossy (String.utf8EncodeChar c ++ rest) (c :: text)
  | broken {run rest : Bytes} {text : Text} :
      IsBroken run rest →
      ReadsLossy rest text →
      ReadsLossy (run ++ rest) ('\uFFFD' :: text)

/-! ## Bytes that begin a character -/

theorem Begins.eq {byte : UInt8} {first second : Pending}
    (firstBegins : Begins byte first) (secondBegins : Begins byte second) : first = second := by
  have same := (lead_of_begins firstBegins).symm.trans (lead_of_begins secondBegins)
  exact Option.some.inj (Prod.mk.inj same).2

theorem exists_completes (begun : Pending)
    (room : begun.low ≤ begun.high) (small : begun.low < 256) :
    ∃ bytes value, begun.Completes bytes value := by
  have number : (UInt8.ofNat begun.low).toNat = begun.low := Nat.mod_eq_of_lt small
  have takes : begun.Takes (UInt8.ofNat begun.low) := by
    unfold Pending.Takes
    omega
  by_cases single : begun.missing ≤ 1
  · exact ⟨_, _, .last takes single rfl⟩
  · obtain ⟨bytes, value, completes⟩ :=
      exists_completes (begun.next (UInt8.ofNat begun.low)) (by simp [Pending.next])
        (by simp [Pending.next])
    exact ⟨_, _, .more takes single completes⟩
termination_by begun.missing
decreasing_by
  show begun.missing - 1 < begun.missing
  omega

theorem exists_completes_next (begun : Pending) (byte : UInt8) :
    ∃ bytes value, (begun.next byte).Completes bytes value :=
  exists_completes _ (by simp [Pending.next]) (by simp [Pending.next])

theorem Begins.bounds {byte : UInt8} {begun : Pending} (begins : Begins byte begun) :
    begun.low ≤ begun.high ∧ begun.low < 256 := by
  cases begins with
  | two least bound => exact ⟨by simp, by simp⟩
  | three least bound =>
      dsimp only
      split <;> split <;> omega
  | four least bound =>
      dsimp only
      split <;> split <;> omega

theorem Begins.exists_completes {byte : UInt8} {begun : Pending} (begins : Begins byte begun) :
    ∃ bytes value, begun.Completes bytes value :=
  Utf8.exists_completes begun begins.bounds.1 begins.bounds.2

section

variable {byte : UInt8} {begun : Pending} {bytes : Bytes}

theorem Begins.completes_of_encodeChar (begins : Begins byte begun) {c : Char}
    (encoded : String.utf8EncodeChar c = byte :: bytes) : begun.Completes bytes c.toNat := by
  rcases encodeChar_cases c with
    ⟨single, alone, ascii, -⟩ | ⟨first, other, others, several, -, otherBegins, completes⟩
  · obtain ⟨rfl, -⟩ := List.cons.inj (alone.symm.trans encoded)
    have least := begins.least.1
    omega
  · obtain ⟨rfl, rfl⟩ := List.cons.inj (several.symm.trans encoded)
    rw [begins.eq otherBegins]
    exact completes

/-- The bytes behind the first one that a character may have. -/
theorem Begins.isPartial_cons_iff (begins : Begins byte begun) {front : Bytes} :
    IsPartial (byte :: front) ↔ ∃ more value, begun.Completes (front ++ more) value := by
  constructor
  · rintro ⟨c, more, encoded⟩
    exact ⟨more, _, begins.completes_of_encodeChar encoded.symm⟩
  · rintro ⟨more, value, completes⟩
    exact ⟨_, more, (encodeChar_of_completes begins completes).symm⟩

end

/-! ## Reading on behind a broken run -/

theorem read_of_not_takes {begun : Pending} {rest : Bytes}
    (broken : ∀ byte behind, rest = byte :: behind → ¬ begun.Takes byte) :
    read (some begun) rest = none :: read none rest := by
  cases rest with
  | nil => rfl
  | cons byte behind =>
      rw [read_cons, step_broken (broken byte behind rfl), read_cons]
      rfl

/-- The bytes of a character under way are given up together where the next one does not fit. -/
theorem read_append_of_stuck {begun : Pending} {front rest : Bytes}
    (fits : ∃ more value, begun.Completes (front ++ more) value)
    (unread : ∀ bytes value, begun.Completes bytes value → ¬ bytes <+: front ++ rest)
    (longest : ∀ byte behind, rest = byte :: behind →
      ¬ ∃ more value, begun.Completes (front ++ byte :: more) value) :
    read (some begun) (front ++ rest) = none :: read none rest := by
  induction front generalizing begun with
  | nil =>
      apply read_of_not_takes
      intro byte behind shape takes
      by_cases single : begun.missing ≤ 1
      · exact longest byte behind shape ⟨[], _, .last takes single rfl⟩
      · obtain ⟨more, value, completes⟩ := exists_completes_next begun byte
        exact longest byte behind shape ⟨more, value, .more takes single completes⟩
  | cons byte front ih =>
      obtain ⟨more, value, completes⟩ := fits
      by_cases single : begun.missing ≤ 1
      · obtain ⟨_, shape, takes, done⟩ := completes.single single
        obtain ⟨rfl, -⟩ := List.cons.inj shape
        have complete := unread [byte] value (.last takes single done)
        exact absurd (List.prefix_append [byte] (front ++ rest)) complete
      · obtain ⟨_, _, shape, takes, completesMore⟩ := completes.several single
        obtain ⟨rfl, rfl⟩ := List.cons.inj shape
        rw [List.cons_append, read_cons, step_more takes single]
        apply ih ⟨more, value, completesMore⟩
        · intro bytes value completes isPrefix
          exact unread _ _ (.more takes single completes) ((List.prefix_cons_inj byte).mpr isPrefix)
        · rintro next behind shape ⟨more, value, completes⟩
          exact longest next behind shape ⟨more, value, .more takes single completes⟩

theorem IsBroken.tail_eq_nil {byte : UInt8} {front rest : Bytes}
    (isBroken : IsBroken (byte :: front) rest) (loose : ∀ begun, ¬ Begins byte begun) :
    front = [] := by
  cases front with
  | nil => rfl
  | cons next front =>
      obtain ⟨c, more, encoded⟩ := isBroken.begins (by simp)
      rcases encodeChar_cases c with ⟨_, alone, -⟩ | ⟨_, begun, _, several, -, begins, -⟩
      · have short := congrArg List.length (alone.symm.trans encoded.symm)
        simp at short
      · obtain ⟨rfl, -⟩ := List.cons.inj (several.symm.trans encoded.symm)
        exact absurd begins (loose begun)

theorem read_append_of_isBroken {run rest : Bytes} (isBroken : IsBroken run rest) :
    read none (run ++ rest) = none :: read none rest := by
  cases run with
  | nil => exact absurd rfl isBroken.nonempty
  | cons byte front =>
      rw [List.cons_append, read_cons, step]
      rcases lead_cases byte with ⟨ascii, -⟩ | loose | ⟨begun, begins⟩
      · have unread := isBroken.unread (Char.ofNat byte.toNat)
        rw [encodeChar_one ascii] at unread
        exact absurd (List.prefix_append [byte] (front ++ rest)) unread
      · have alone : front = [] := by
          apply isBroken.tail_eq_nil
          intro begun begins
          have same := (lead_of_begins begins).symm.trans loose
          cases (Prod.mk.inj same).2
        rw [loose, alone]
        rfl
      · rw [lead_of_begins begins]
        apply read_append_of_stuck
        · cases front with
          | nil => exact begins.exists_completes
          | cons next front =>
              exact begins.isPartial_cons_iff.mp (isBroken.begins (by simp))
        · intro bytes value completes isPrefix
          apply isBroken.unread (Char.ofNat value)
          rw [encodeChar_of_completes begins completes]
          exact (List.prefix_cons_inj byte).mpr isPrefix
        · rintro next behind rfl fits
          have longer := isBroken.longest (byte :: (front ++ [next])) ⟨behind, by simp⟩
            (begins.isPartial_cons_iff.mpr (by simpa using fits))
          simp only [List.length_cons, List.length_append, List.length_nil] at longer
          omega

/-! ## Any bytes -/

open Classical in
/-- Of the first bytes that may begin a character together, some are the most. -/
theorem exists_longest (bytes : Bytes) :
    ∃ most ≤ bytes.length, IsPartial (bytes.take most) ∧
      ∀ longer, longer <+: bytes → IsPartial longer → longer.length ≤ most := by
  let begins := fun count => IsPartial (bytes.take count)
  have none : begins 0 := ⟨'a', List.nil_prefix⟩
  refine ⟨Nat.findGreatest begins bytes.length, Nat.findGreatest_le _, ?_, ?_⟩
  · exact Nat.findGreatest_spec (Nat.zero_le _) none
  · intro longer isPrefix isPartial
    apply Nat.le_findGreatest isPrefix.length_le
    show IsPartial (bytes.take longer.length)
    rw [← List.prefix_iff_eq_take.mp isPrefix]
    exact isPartial

/-- Bytes in front of which no character stands begin with a broken run. -/
theorem exists_isBroken {bytes : Bytes} (nonempty : bytes ≠ [])
    (unread : ∀ c, ¬ String.utf8EncodeChar c <+: bytes) :
    ∃ run rest, bytes = run ++ rest ∧ IsBroken run rest := by
  obtain ⟨most, fits, isPartial, longest⟩ := exists_longest bytes
  have whole := List.take_append_drop (max 1 most) bytes
  have positive := List.length_pos_iff.mpr nonempty
  have length : (bytes.take (max 1 most)).length = max 1 most := by
    rw [List.length_take]
    omega
  refine ⟨bytes.take (max 1 most), bytes.drop (max 1 most), whole.symm, ?_, ?_, ?_, ?_⟩
  · intro empty
    rw [empty] at length
    have zero : max 1 most = 0 := length.symm
    omega
  · rw [whole]
    exact unread
  · intro several
    rw [length] at several
    rw [Nat.max_eq_right (by omega)]
    exact isPartial
  · rw [whole, length]
    intro longer isPrefix begins
    exact Nat.le_trans (longest longer isPrefix begins) (Nat.le_max_right 1 most)

theorem exists_readsLossy (bytes : Bytes) : ∃ text, ReadsLossy bytes text := by
  by_cases begins : ∃ c, String.utf8EncodeChar c <+: bytes
  · obtain ⟨c, rest, split⟩ := begins
    obtain ⟨text, reads⟩ := exists_readsLossy rest
    rw [← split]
    exact ⟨_, .character c reads⟩
  · by_cases empty : bytes = []
    · rw [empty]
      exact ⟨_, .nil⟩
    · obtain ⟨run, rest, split, isBroken⟩ := exists_isBroken empty (not_exists.mp begins)
      obtain ⟨text, reads⟩ := exists_readsLossy rest
      rw [split]
      exact ⟨_, .broken isBroken reads⟩
termination_by bytes.length
decreasing_by
  · have positive : 0 < (String.utf8EncodeChar c).length :=
      List.length_pos_iff.mpr String.utf8EncodeChar_ne_nil
    rw [← split, List.length_append]
    omega
  · have positive : 0 < run.length := List.length_pos_iff.mpr isBroken.nonempty
    rw [split, List.length_append]
    omega

theorem ReadsLossy.decodeLossy_eq {bytes : Bytes} {text : Text} (reads : ReadsLossy bytes text) :
    decodeLossy bytes = text := by
  induction reads with
  | nil => rfl
  | character c _ ih =>
      unfold decodeLossy at ih ⊢
      rw [read_encodeChar_append, List.map_cons, ih]
      rfl
  | broken isBroken _ ih =>
      unfold decodeLossy at ih ⊢
      rw [read_append_of_isBroken isBroken, List.map_cons, ih]
      rfl

/-- What is read with replacements is what the bytes are as a text. -/
theorem decodeLossy_eq_iff {bytes : Bytes} {text : Text} :
    decodeLossy bytes = text ↔ ReadsLossy bytes text := by
  constructor
  · rintro rfl
    obtain ⟨text, reads⟩ := exists_readsLossy bytes
    rw [reads.decodeLossy_eq]
    exact reads
  · exact ReadsLossy.decodeLossy_eq

-- two bytes of three, then a byte that no character has
example : decodeLossy [0x61, 0xE2, 0x82, 0x62, 0xFF] = ['a', '\uFFFD', 'b', '\uFFFD'] := by decide

end Utf8

end Reformat
