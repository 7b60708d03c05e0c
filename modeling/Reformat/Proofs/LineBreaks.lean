import Mathlib.Data.Nat.Nth
import Reformat.Document.Basic
import Reformat.Proofs.Coordinates

/-!
Line breaks and the lines between them. Main statement: the line of a position is the number of the
breaks that end at or before it, and its column is counted from the end of the last of these.
-/

namespace Reformat

namespace Text

/-! ## Line breaks -/

/-- All that ends a line: CRLF, LF, VT, FF, CR, NEL, LS and PS. -/
def lineTerminators : List Text :=
  [['\r', '\n'], ['\n'], ['\u000B'], ['\u000C'], ['\r'], ['\u0085'], ['\u2028'], ['\u2029']]

/-- A terminator that stands in a text and is not part of a longer one. -/
structure IsLineBreak (text : Text) (start : Nat) (mark : Text) : Prop where
  terminator : mark ∈ lineTerminators
  stands : mark <+: text.drop start
  longest : ∀ other ∈ lineTerminators, ∀ first, other <+: text.drop first →
    first ≤ start → start + mark.length ≤ first + other.length → other = mark

/-- Whether a line break ends at a position of a text. -/
def EndsAt (text : Text) (index : Nat) : Prop :=
  ∃ start mark, IsLineBreak text start mark ∧ start + mark.length = index

/-- The end of the line break in front of a line; the first line begins with the text. -/
noncomputable def lineStart (text : Text) : Nat → Nat
  | 0 => 0
  | line + 1 => Nat.nth (EndsAt text) line

section

variable {text mark other : Text} {start first index : Nat} {c : Char}

/-- No two line breaks end at one position. -/
theorem IsLineBreak.unique (lineBreak : IsLineBreak text start mark)
    (another : IsLineBreak text first other)
    (sameEnd : first + other.length = start + mark.length) : first = start ∧ other = mark := by
  have same : other = mark := by
    rcases Nat.le_total first start with before | behind
    · exact lineBreak.longest other another.terminator first another.stands before sameEnd.ge
    · exact (another.longest mark lineBreak.terminator start lineBreak.stands behind sameEnd.le).symm
  rw [same] at sameEnd
  exact ⟨Nat.add_right_cancel sameEnd, same⟩

theorem isBreak_iff : isBreak c = true ↔ [c] ∈ lineTerminators := by
  simp only [lineTerminators, isBreak, List.mem_cons, List.cons.injEq, ← Char.toNat_inj,
    Bool.or_eq_true, Bool.and_eq_true, decide_eq_true_eq, beq_iff_eq, Char.reduceToNat,
    List.ne_cons_self, and_false, and_true, List.not_mem_nil, or_false, false_or]
  omega

theorem mem_lineTerminators_iff :
    mark ∈ lineTerminators ↔ mark = ['\r', '\n'] ∨ ∃ c, isBreak c = true ∧ mark = [c] := by
  simp only [isBreak_iff]
  constructor
  · intro member
    rcases List.mem_cons.mp member with both | single
    · exact Or.inl both
    · have short : ∀ other ∈ lineTerminators.tail, other.length = 1 := by decide
      rcases List.length_eq_one_iff.mp (short mark single) with ⟨c, rfl⟩
      exact Or.inr ⟨c, member, rfl⟩
  · rintro (rfl | ⟨c, member, rfl⟩)
    · exact List.mem_cons_self
    · exact member

theorem singleton_prefix_drop_iff : [c] <+: text.drop start ↔ text[start]? = some c := by
  rw [List.prefix_iff_getElem?]
  simp

theorem crlf_prefix_drop_iff :
    ['\r', '\n'] <+: text.drop start ↔
      text[start]? = some '\r' ∧ text[start + 1]? = some '\n' := by
  rw [List.prefix_iff_getElem?]
  simp only [List.getElem?_drop]
  constructor
  · intro stands
    exact ⟨stands 0 (by decide), stands 1 (by decide)⟩
  · rintro ⟨returned, fed⟩ offset inside
    match offset, inside with
    | 0, _ => exact returned
    | 1, _ => exact fed

/-- A CRLF is no part of anything longer. -/
theorem isLineBreak_crlf (returned : text[start]? = some '\r')
    (fed : text[start + 1]? = some '\n') : IsLineBreak text start ['\r', '\n'] where
  terminator := List.mem_cons_self
  stands := crlf_prefix_drop_iff.mpr ⟨returned, fed⟩
  longest := by
    intro other terminator first _ before reaches
    rcases mem_lineTerminators_iff.mp terminator with both | ⟨c, -, rfl⟩
    · exact both
    · simp only [List.length_cons, List.length_nil] at reaches
      omega

/-- Any other terminator is a line break unless it is one half of a CRLF. -/
theorem isLineBreak_singleton (breaks : isBreak c = true) (found : text[start]? = some c)
    (notReturn : ¬ (c = '\r' ∧ text[start + 1]? = some '\n'))
    (notFeed : ∀ before, before + 1 = start → ¬ (text[before]? = some '\r' ∧ c = '\n')) :
    IsLineBreak text start [c] where
  terminator := isBreak_iff.mp breaks
  stands := singleton_prefix_drop_iff.mpr found
  longest := by
    intro other terminator first stands before reaches
    rcases mem_lineTerminators_iff.mp terminator with rfl | ⟨d, -, rfl⟩
    · rcases crlf_prefix_drop_iff.mp stands with ⟨returned, fed⟩
      rcases Nat.eq_or_lt_of_le before with rfl | earlier
      · rw [found] at returned
        exact absurd ⟨Option.some.inj returned, fed⟩ notReturn
      · have next : first + 1 = start := by
          simp only [List.length_cons, List.length_nil] at reaches
          omega
        rw [next, found] at fed
        exact absurd ⟨returned, Option.some.inj fed⟩ (notFeed first next)
    · have same : first = start := by
        simp only [List.length_cons, List.length_nil] at reaches
        omega
      rw [singleton_prefix_drop_iff, same, found] at stands
      rw [Option.some.inj stands]

theorem not_endsAt_zero (text : Text) : ¬ EndsAt text 0 := by
  rintro ⟨start, mark, lineBreak, ends⟩
  have nonempty : mark ≠ [] := by
    rintro rfl
    exact absurd lineBreak.terminator (by decide)
  exact nonempty (List.eq_nil_of_length_eq_zero (by omega))

theorem endsLine_iff {rest : Text} :
    endsLine c rest = true ↔ isBreak c = true ∧ ¬ (c = '\r' ∧ rest.head? = some '\n') := by
  simp [endsLine, Classical.or_iff_not_imp_left]

/-- A line break ends behind a character just where a walk through the text begins a line. -/
theorem endsAt_succ_iff :
    EndsAt text (index + 1) ↔
      ∃ c ∈ text[index]?, endsLine c (text.drop (index + 1)) = true := by
  simp only [endsLine_iff, List.head?_drop, Option.mem_def]
  constructor
  · rintro ⟨start, mark, lineBreak, ends⟩
    rcases mem_lineTerminators_iff.mp lineBreak.terminator with rfl | ⟨c, breaks, rfl⟩
    · have fed := (crlf_prefix_drop_iff.mp lineBreak.stands).2
      rw [Nat.add_right_cancel (m := 1) ends] at fed
      exact ⟨'\n', fed, by decide, fun both => absurd both.1 (by decide)⟩
    · obtain rfl : start = index := Nat.add_right_cancel ends
      have found := singleton_prefix_drop_iff.mp lineBreak.stands
      refine ⟨c, found, breaks, ?_⟩
      -- the CR of a CRLF is not the longest terminator at its place
      rintro ⟨rfl, fed⟩
      have longer := lineBreak.longest ['\r', '\n'] List.mem_cons_self start
        (crlf_prefix_drop_iff.mpr ⟨found, fed⟩) (Nat.le_refl _) (Nat.le_succ _)
      exact absurd longer (by decide)
  · rintro ⟨c, found, breaks, notReturn⟩
    by_cases behind : ∃ before, before + 1 = index ∧ text[before]? = some '\r' ∧ c = '\n'
    · rcases behind with ⟨before, rfl, returned, rfl⟩
      exact ⟨before, _, isLineBreak_crlf returned found, rfl⟩
    · have notFeed :
          ∀ before, before + 1 = index → ¬ (text[before]? = some '\r' ∧ c = '\n') :=
        fun before next both => behind ⟨before, next, both⟩
      exact ⟨index, _, isLineBreak_singleton breaks found notReturn notFeed, rfl⟩

instance (text : Text) : DecidablePred (EndsAt text)
  | 0 => isFalse (not_endsAt_zero text)
  | index + 1 =>
      decidable_of_iff (text[index]?.any (fun c => endsLine c (text.drop (index + 1))) = true)
        ((Option.any_eq_true _ _).trans endsAt_succ_iff.symm)

end

/-! ## Positions -/

section

variable {text : Text} {index : Nat}

theorem Position.walk_zero (start : Position) (text : Text) : start.walk text 0 = start := by
  cases text with
  | nil => rfl
  | cons c rest => rfl

theorem Position.walk_succ (start : Position) (inside : index < text.length) :
    start.walk text (index + 1) =
      (start.walk text index).next text[index] (text.drop (index + 1)) := by
  induction text generalizing start index with
  | nil => exact absurd inside (Nat.not_lt_zero index)
  | cons c rest inductionHypothesis =>
      cases index with
      | zero => exact (start.next c rest).walk_zero rest
      | succ index => exact inductionHypothesis (start.next c rest) (Nat.lt_of_succ_lt_succ inside)

theorem Position.line_walk_length (start : Position) (text : Text) :
    (start.walk text text.length).line + 1 = start.line + lineCount text := by
  induction text generalizing start with
  | nil => rfl
  | cons c rest inductionHypothesis =>
      rw [List.length_cons, walk, inductionHypothesis, next, lineCount]
      split
      · exact Nat.add_assoc _ _ _
      · rfl

theorem position_succ_of_endsAt (ends : EndsAt text (index + 1)) :
    position text (index + 1) = ⟨(position text index).line + 1, 0⟩ := by
  rcases endsAt_succ_iff.mp ends with ⟨c, found, ends⟩
  rcases List.getElem?_eq_some_iff.mp found with ⟨inside, rfl⟩
  unfold position
  rw [Position.walk_succ _ inside, Position.next, if_pos ends]

theorem position_succ_of_not_endsAt (inside : index < text.length)
    (goes : ¬ EndsAt text (index + 1)) :
    position text (index + 1) =
      ⟨(position text index).line, (position text index).column + 1⟩ := by
  have goesOn : ¬ endsLine text[index] (text.drop (index + 1)) = true := fun ends =>
    goes (endsAt_succ_iff.mpr ⟨_, List.getElem?_eq_getElem inside, ends⟩)
  unfold position
  rw [Position.walk_succ _ inside, Position.next, if_neg goesOn]

theorem position_zero (text : Text) : position text 0 = ⟨0, 0⟩ :=
  Position.walk_zero ⟨0, 0⟩ text

/-- The line of a position counts the line breaks that end at or before it. -/
theorem line_position (inside : index ≤ text.length) :
    (position text index).line = Nat.count (EndsAt text) (index + 1) := by
  induction index with
  | zero => rw [position_zero, Nat.count_succ, Nat.count_zero, if_neg (not_endsAt_zero text)]
  | succ index inductionHypothesis =>
      have before := inductionHypothesis (Nat.le_of_succ_le inside)
      rw [Nat.count_succ]
      by_cases ends : EndsAt text (index + 1)
      · rw [position_succ_of_endsAt ends, if_pos ends, before]
      · rw [position_succ_of_not_endsAt inside ends, if_neg ends, before]
        rfl

/-- The column of a position is counted from the start of its line. -/
theorem lineStart_add_column (inside : index ≤ text.length) :
    lineStart text (position text index).line + (position text index).column = index := by
  induction index with
  | zero =>
      rw [position_zero]
      rfl
  | succ index inductionHypothesis =>
      have within := Nat.le_of_succ_le inside
      by_cases ends : EndsAt text (index + 1)
      · rw [position_succ_of_endsAt ends, line_position within, lineStart, Nat.nth_count ends,
          Nat.add_zero]
      · rw [position_succ_of_not_endsAt inside ends, ← Nat.add_assoc, inductionHypothesis within]

theorem lineCount_eq_count (text : Text) :
    lineCount text = Nat.count (EndsAt text) (text.length + 1) + 1 := by
  have walked := Position.line_walk_length ⟨0, 0⟩ text
  rw [Nat.zero_add] at walked
  rw [← walked, ← line_position (Nat.le_refl _)]
  rfl

theorem line_position_lt_lineCount (inside : index ≤ text.length) :
    (position text index).line < lineCount text := by
  rw [line_position inside, lineCount_eq_count, Nat.lt_succ_iff]
  exact Nat.count_monotone _ (Nat.succ_le_succ inside)

end

end Text

namespace Document

/-- Lines and columns are coordinates of the positions of a document: the line counts the line
breaks that end at or before a position, one at most at each, the column the characters since then,
and both together grow from each position to the next, up to the end. -/
theorem lineColumn_is_coordinate (document : Document) :
    (∀ index, Text.EndsAt document.chars index →
      ∃! lineBreak : Nat × Text, Text.IsLineBreak document.chars lineBreak.1 lineBreak.2 ∧
        lineBreak.1 + lineBreak.2.length = index) ∧
      (∀ index ≤ document.length,
        let place := document.lineColumn index
        place.line = Nat.count (Text.EndsAt document.chars) (index + 1) ∧
          place.line < document.lineCount ∧
          Text.lineStart document.chars place.line + place.column = index) ∧
      (∀ first last, first < last → last ≤ document.length →
        (document.lineColumn first).key < (document.lineColumn last).key) ∧
      ∀ index, document.length < index →
        document.lineColumn index = document.lineColumn document.length := by
  refine ⟨?_, ?_, ?_, ?_⟩
  · rintro index ⟨start, mark, lineBreak, ends⟩
    refine ⟨(start, mark), ⟨lineBreak, ends⟩, ?_⟩
    rintro ⟨first, other⟩ ⟨another, sameEnd⟩
    exact Prod.ext_iff.mpr (lineBreak.unique another (sameEnd.trans ends.symm))
  · intro index inside
    exact ⟨Text.line_position inside, Text.line_position_lt_lineCount inside,
      Text.lineStart_add_column inside⟩
  · intro first last order inside
    exact Text.Position.key_walk_lt_key_walk order inside
  · intro index past
    have clamped : document.lineColumn (min index document.length) = document.lineColumn index :=
      Text.Position.walk_min_length ⟨0, 0⟩ document.chars index
    rw [← clamped, Nat.min_eq_right (Nat.le_of_lt past)]

/-- A CR in front of a CRLF, a position inside of the CRLF, NEL in front of an LF, and an LF at the
end. -/
theorem lineColumn_is_coordinate_inside_crlf :
    let document :=
      ofHostText ['a', '\r', '\r', '\r', '\n', 'é', '\u2028', 'b', '\u0085', '\n']
    document.chars = ['a', '\r', '\r', '\n', 'é', '\u2028', 'b', '\u0085', '\n'] ∧
      Text.IsLineBreak document.chars 2 ['\r', '\n'] ∧
      (∀ start mark, Text.IsLineBreak document.chars start mark → start + mark.length = 4 →
        (start, mark) = (2, ['\r', '\n'])) ∧
      document.lineColumn 3 = ⟨1, 1⟩ ∧ Nat.count (Text.EndsAt document.chars) 4 = 1 ∧
      Text.lineStart document.chars 1 = 2 ∧
      document.lineColumn 9 = ⟨5, 0⟩ ∧ document.lineCount = 6 ∧
      Text.lineStart document.chars 5 = 9 ∧
      (document.lineColumn 3).key < (document.lineColumn 4).key ∧
      document.lineColumn 100 = document.lineColumn 9 := by
  intro document
  have text : document.chars = ['a', '\r', '\r', '\n', 'é', '\u2028', 'b', '\u0085', '\n'] := by
    decide +kernel
  have crlf : Text.IsLineBreak document.chars 2 ['\r', '\n'] :=
    Text.isLineBreak_crlf (by rw [text]; rfl) (by rw [text]; rfl)
  have inside : document.lineColumn 3 = ⟨1, 1⟩ := by decide +kernel
  have last : document.lineColumn 9 = ⟨5, 0⟩ := by decide +kernel
  have length : document.length = 9 := by decide +kernel
  rcases lineColumn_is_coordinate document with ⟨single, counts, grows, clamps⟩
  rcases single 4 ⟨2, _, crlf, rfl⟩ with ⟨found, -, only⟩
  rcases counts 3 (by omega) with ⟨insideLine, -, insideStart⟩
  rcases counts 9 (by omega) with ⟨-, -, lastStart⟩
  rw [inside] at insideLine insideStart
  rw [last] at lastStart
  have past := clamps 100 (by omega)
  rw [length] at past
  refine ⟨text, crlf, ?_, inside, insideLine.symm, Nat.add_right_cancel insideStart, last,
    by decide +kernel, lastStart, grows 3 4 (by decide) (by omega), past⟩
  intro start mark lineBreak ends
  rw [only (start, mark) ⟨lineBreak, ends⟩, only (2, ['\r', '\n']) ⟨crlf, rfl⟩]

end Document

end Reformat
