import Mathlib.Tactic.FinCases
import Reformat.Proofs.Scanning
import Reformat.Replacements.Parser
import Reformat.Replacements.Printer

/-!
Tags with attributes as they are written. Main statements: an attribute that is written is the first
that is read, the numbers of an element are read from its attributes in either order and in either
kind of quotes, and attributes end no tag.
-/

namespace Reformat.Replacements

open Text

/-! ## One attribute -/

def isName : Text → Bool
  | [] => false
  | c :: rest => isNameStart c && rest.all isNameChar

/-- A value that can stand in quotes of either kind and in a tag. -/
def isValue (value : Text) : Bool :=
  value.all fun c => c != '\'' && c != '"' && c != '<' && c != '>'

theorem not_mem_of_isValue {value : Text} {c : Char}
    (isValue : isValue value = true) (special : c ∈ ['\'', '"', '<', '>']) : c ∉ value := by
  intro member
  have plain := List.all_eq_true.mp isValue c member
  simp only [Bool.and_eq_true, bne_iff_ne] at plain
  simp only [List.mem_cons, List.not_mem_nil, or_false] at special
  grind

theorem isValue_write (n : Nat) : isValue (Decimal.write n) = true := by
  apply List.all_eq_true.mpr
  intro c member
  have digit := Decimal.isDigit_of_mem_write member
  simp only [Bool.and_eq_true, bne_iff_ne]
  refine ⟨⟨⟨?_, ?_⟩, ?_⟩, ?_⟩
  all_goals
    rintro rfl
    exact absurd digit (by decide)

theorem quotedValue?_append {mark : Char} {value : Text}
    (quote : mark = '\'' ∨ mark = '"') (absent : mark ∉ value) (rest : Text) :
    quotedValue? (mark :: (value ++ mark :: rest)) = some (value, rest) := by
  rw [quotedValue?, if_pos quote, dropWhile_ne_append_cons absent,
    takeWhile_ne_append_cons absent]

def blankNumbers : List Nat :=
  [0x09, 0x0A, 0x0B, 0x0C, 0x0D, 0x20, 0x85, 0xA0, 0x1680, 0x2000, 0x2001, 0x2002, 0x2003, 0x2004,
    0x2005, 0x2006, 0x2007, 0x2008, 0x2009, 0x200A, 0x2028, 0x2029, 0x202F, 0x205F, 0x3000]

theorem toNat_mem_blankNumbers {c : Char} (blank : isBlank c = true) : c.toNat ∈ blankNumbers := by
  simp only [isBlank, Bool.or_eq_true, Bool.and_eq_true, decide_eq_true_eq, beq_iff_eq] at blank
  simp only [blankNumbers, List.mem_cons, List.not_mem_nil, or_false]
  omega

theorem isNameChar_of_isBlank {c : Char} (blank : isBlank c = true) : isNameChar c = false := by
  have outside : ∀ n ∈ blankNumbers, isNameChar (Char.ofNat n) = false := by decide +kernel
  rw [← Char.ofNat_toNat c]
  exact outside _ (toNat_mem_blankNumbers blank)

/-- A name ends in front of the blanks or the equals sign behind it. -/
theorem exists_cons_of_blanks {blanks : Text} (blank : ∀ c ∈ blanks, isBlank c = true)
    (rest : Text) :
    ∃ c others, blanks ++ '=' :: rest = c :: others ∧ isNameChar c = false := by
  cases blanks with
  | nil => exact ⟨'=', rest, rfl, by decide⟩
  | cons c others => exact ⟨c, _, rfl, isNameChar_of_isBlank (blank c List.mem_cons_self)⟩

theorem attribute?_append {name before behind value : Text} {mark : Char}
    (named : isName name = true) (blankBefore : ∀ c ∈ before, isBlank c = true)
    (blankBehind : ∀ c ∈ behind, isBlank c = true) (quote : mark = '\'' ∨ mark = '"')
    (absent : mark ∉ value) (rest : Text) :
    attribute? (name ++ (before ++ '=' :: (behind ++ mark :: (value ++ mark :: rest)))) =
      some ((name, value), rest) := by
  cases name with
  | nil => exact absurd named (by decide)
  | cons c tail =>
      simp only [isName, Bool.and_eq_true, List.all_eq_true] at named
      obtain ⟨start, inside⟩ := named
      have unblank : isBlank mark = false := by
        rcases quote with rfl | rfl
        · decide
        · decide
      have behindName := dropWhile_append_cons (c := '=') blankBefore (by decide)
        (behind ++ mark :: (value ++ mark :: rest))
      have behindSign := dropWhile_append_cons blankBehind unblank (value ++ mark :: rest)
      have sign :
          Scan.dropMark ['='] ('=' :: (behind ++ mark :: (value ++ mark :: rest))) =
            some (behind ++ mark :: (value ++ mark :: rest)) :=
        Scan.dropMark_append ['='] _
      obtain ⟨first, others, shape, outside⟩ :=
        exists_cons_of_blanks blankBefore (behind ++ mark :: (value ++ mark :: rest))
      rw [shape] at behindName ⊢
      simp only [List.cons_append, attribute?, start, takeWhile_append_cons inside outside,
        dropWhile_append_cons inside outside, behindName, sign, behindSign,
        quotedValue?_append quote absent, Option.bind_eq_bind, Option.bind_some]
      rfl

theorem attributes_renderAttribute (doubleQuoted : Bool) {name value : Text}
    (named : isName name = true) (valued : isValue value = true) (rest : Text) :
    attributes (renderAttribute doubleQuoted name value ++ rest) =
      (name, value) :: attributes rest := by
  have quote :
      (if doubleQuoted then '"' else '\'') = '\'' ∨
        (if doubleQuoted then '"' else '\'') = '"' := by
    cases doubleQuoted
    · exact Or.inl rfl
    · exact Or.inr rfl
  have absent : (if doubleQuoted then '"' else '\'') ∉ value := by
    cases doubleQuoted
    · exact not_mem_of_isValue valued (by decide)
    · exact not_mem_of_isValue valued (by decide)
  have text :
      renderAttribute doubleQuoted name value ++ rest =
        ' ' :: (name ++ '=' :: (if doubleQuoted then '"' else '\'') ::
          (value ++ (if doubleQuoted then '"' else '\'') :: rest)) := by
    simp [renderAttribute]
  have found := attribute?_append named (List.forall_mem_nil _) (List.forall_mem_nil _) quote absent
    rest
  unfold attributes
  rw [text, Scan.all]
  change Scan.all attribute? _ = _
  apply Scan.all_of_eq_some found
  simp only [List.length_append, List.length_cons]
  omega

/-! ## The attributes of an element -/

theorem attributes_renderAttributes (spelling : Spelling) (edit : Edit) :
    attributes (renderAttributes spelling edit) =
      if spelling.lengthFirst then
        [("length".toList, Decimal.write edit.length), ("offset".toList, Decimal.write edit.offset)]
      else
        [("offset".toList, Decimal.write edit.offset),
          ("length".toList, Decimal.write edit.length)] := by
  have offset := attributes_renderAttribute spelling.offsetDoubleQuoted
    (show isName "offset".toList = true by decide) (isValue_write edit.offset)
  have length := attributes_renderAttribute spelling.lengthDoubleQuoted
    (show isName "length".toList = true by decide) (isValue_write edit.length)
  have nothing : attributes [] = [] := by
    rw [attributes, Scan.all]
  have lastOffset := offset []
  have lastLength := length []
  rw [List.append_nil, nothing] at lastOffset lastLength
  unfold renderAttributes
  cases spelling.lengthFirst with
  | false =>
      simp only [Bool.false_eq_true, if_false]
      rw [offset, lastLength]
  | true =>
      simp only [if_true]
      rw [length, lastOffset]

theorem valueOf?_renderAttributes (spelling : Spelling) (edit : Edit) :
    valueOf? "offset".toList (attributes (renderAttributes spelling edit)) =
        some (Decimal.write edit.offset) ∧
      valueOf? "length".toList (attributes (renderAttributes spelling edit)) =
        some (Decimal.write edit.length) := by
  rw [attributes_renderAttributes]
  cases spelling.lengthFirst
  · exact ⟨rfl, rfl⟩
  · exact ⟨rfl, rfl⟩

theorem number_eq_ok {name : Text} {n : Nat} {given : List (Text × Text)}
    (fits : n < UInt64.size) (found : valueOf? name given = some (Decimal.write n)) :
    number name given = .ok n := by
  unfold number
  simp only [found, Decimal.read?_write fits]
  rfl

/-! ## Tags around attributes -/

theorem not_mem_of_isName {name : Text} {c : Char}
    (named : isName name = true) (special : c ∈ ['<', '>']) : c ∉ name := by
  have noStart : isNameStart c = false := by
    fin_cases special
    · decide
    · decide
  have noChar : isNameChar c = false := by
    fin_cases special
    · decide
    · decide
  cases name with
  | nil => exact List.not_mem_nil
  | cons head tail =>
      simp only [isName, Bool.and_eq_true, List.all_eq_true] at named
      intro member
      rcases List.mem_cons.mp member with rfl | later
      · exact absurd named.1 (by simp [noStart])
      · exact absurd (named.2 c later) (by simp [noChar])

/-- An attribute neither ends the tag that it is in nor begins another one. -/
theorem not_mem_renderAttribute (doubleQuoted : Bool) {name value : Text} {c : Char}
    (named : isName name = true) (valued : isValue value = true) (special : c ∈ ['<', '>']) :
    c ∉ renderAttribute doubleQuoted name value := by
  have absentName := not_mem_of_isName named special
  have absentValue := not_mem_of_isValue valued (List.mem_of_mem_drop (i := 2) special)
  have different : c ∉ [' ', '=', '\'', '"'] := by
    fin_cases special
    · decide
    · decide
  simp only [List.mem_cons, List.not_mem_nil, or_false, not_or] at different
  obtain ⟨space, sign, single, double⟩ := different
  cases doubleQuoted
  · simp [renderAttribute, absentName, absentValue, space, sign, single]
  · simp [renderAttribute, absentName, absentValue, space, sign, double]

theorem not_mem_renderAttributes (spelling : Spelling) (edit : Edit) {c : Char}
    (special : c ∈ ['<', '>']) : c ∉ renderAttributes spelling edit := by
  have offset := not_mem_renderAttribute spelling.offsetDoubleQuoted
    (show isName "offset".toList = true by decide) (isValue_write edit.offset) special
  have length := not_mem_renderAttribute spelling.lengthDoubleQuoted
    (show isName "length".toList = true by decide) (isValue_write edit.length) special
  unfold renderAttributes
  cases spelling.lengthFirst
  · exact fun member => (List.mem_append.mp member).elim offset length
  · exact fun member => (List.mem_append.mp member).elim length offset

theorem getLast?_renderAttribute (front : Text) (doubleQuoted : Bool) (name value : Text) :
    (front ++ renderAttribute doubleQuoted name value).getLast? ≠ some '/' := by
  have last :
      (front ++ renderAttribute doubleQuoted name value).getLast? =
        some (if doubleQuoted then '"' else '\'') := by
    unfold renderAttribute
    rw [← List.append_assoc]
    exact List.getLast?_concat
  rw [last]
  cases doubleQuoted
  · decide
  · decide

theorem getLast?_renderAttributes (spelling : Spelling) (edit : Edit) :
    (renderAttributes spelling edit).getLast? ≠ some '/' := by
  unfold renderAttributes
  cases spelling.lengthFirst
  · exact getLast?_renderAttribute _ _ _ _
  · exact getLast?_renderAttribute _ _ _ _

theorem Tag.read?_open {inside : Text}
    (absent : '>' ∉ inside) (last : inside.getLast? ≠ some '/') (rest : Text) :
    Tag.read? (inside ++ '>' :: rest) = some ⟨inside, false, rest⟩ := by
  unfold Tag.read?
  simp only [takeWhile_ne_append_cons absent, dropWhile_ne_append_cons absent, if_neg last]

theorem Tag.read?_selfClosing {inside : Text} (absent : '>' ∉ inside) (rest : Text) :
    Tag.read? (inside ++ '/' :: '>' :: rest) = some ⟨inside, true, rest⟩ := by
  have absentSlash : '>' ∉ inside ++ ['/'] := by
    simp [absent]
  have text : inside ++ '/' :: '>' :: rest = (inside ++ ['/']) ++ '>' :: rest := by
    simp
  rw [text]
  unfold Tag.read?
  simp only [takeWhile_ne_append_cons absentSlash, dropWhile_ne_append_cons absentSlash]
  rw [if_pos List.getLast?_concat, List.dropLast_concat]

end Reformat.Replacements
