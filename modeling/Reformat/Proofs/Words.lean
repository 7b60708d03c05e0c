import Mathlib.Data.List.DropRight
import Reformat.Text.Blank

/-!
The words of a text. Main statements: a blank stands between words and belongs to none, so that it
makes no difference how many there are at the ends, and the words are the only pieces without a
blank of which the text consists but for blanks between them.
-/

namespace Reformat.Text

variable {c : Char} {piece text : Text}

theorem words_append_blank (blank : isBlank c = true) (front back : Text) :
    words (front ++ c :: back) = words front ++ words back := by
  rw [words, List.splitOnP_append_cons front back blank, List.filter_append, words, words]

theorem words_plain (nonempty : piece ≠ []) (plain : ∀ c ∈ piece, isBlank c = false) :
    words piece = [piece] := by
  rw [words, List.splitOnP_eq_singleton plain]
  simp [nonempty]

theorem words_dropWhile (text : Text) : words (text.dropWhile isBlank) = words text := by
  induction text with
  | nil => rfl
  | cons head tail ih =>
      by_cases blank : isBlank head = true
      · have front := words_append_blank blank [] tail
        rw [List.dropWhile_cons_of_pos blank, ih]
        exact front.symm
      · rw [List.dropWhile_cons_of_neg blank]

theorem words_rdropWhile (text : Text) : words (text.rdropWhile isBlank) = words text := by
  induction text using List.reverseRecOn with
  | nil => rfl
  | append_singleton front last ih =>
      by_cases blank : isBlank last = true
      · rw [List.rdropWhile_concat_pos _ _ _ blank, ih, words_append_blank blank]
        exact (List.append_nil _).symm
      · rw [List.rdropWhile_concat_neg _ _ _ blank]

theorem words_trim (text : Text) : words (trim text) = words text := by
  rw [← words_dropWhile text]
  exact words_rdropWhile _

/-- A text that starts with no blank starts in the same way when it is trimmed. -/
theorem head?_trim_cons (plain : isBlank c = false) (rest : Text) :
    (trim (c :: rest)).head? = some c := by
  have whole : trim (c :: rest) = (c :: rest).rdropWhile isBlank := by
    rw [trim, List.dropWhile_cons_of_neg (by simp [plain]), List.rdropWhile]
  have nonempty : (c :: rest).rdropWhile isBlank ≠ [] := by
    rw [Ne, List.rdropWhile_eq_nil_iff]
    intro blank
    rw [blank c List.mem_cons_self] at plain
    cases plain
  obtain ⟨behind, split⟩ := List.rdropWhile_prefix isBlank (c :: rest)
  obtain ⟨first, others, kept⟩ := List.exists_cons_of_ne_nil nonempty
  rw [kept, List.cons_append, List.cons.injEq] at split
  rw [whole, kept, List.head?_cons, split.1]

/-! ## Words as they stand in a text -/

/-- The pieces stand in the text in order, none of them empty or with a blank in it. Blanks come
between any two of them, and may come in front of the first one and behind the last. -/
inductive Spaced : List Text → Text → Prop where
  | nil :
      Spaced [] []
  | blank {c : Char} {rest : Text} {pieces : List Text}
      (blank : isBlank c = true)
      (spaced : Spaced pieces rest) :
      Spaced pieces (c :: rest)
  | word {piece rest : Text} {pieces : List Text}
      (nonempty : piece ≠ [])
      (plain : ∀ c ∈ piece, isBlank c = false)
      (parted : ∀ c ∈ rest.head?, isBlank c = true)
      (spaced : Spaced pieces rest) :
      Spaced (piece :: pieces) (piece ++ rest)

theorem Spaced.words_eq {pieces : List Text} (spaced : Spaced pieces text) :
    words text = pieces := by
  induction spaced with
  | nil => rfl
  | @blank c rest pieces blank spaced inductionHypothesis =>
      rw [← inductionHypothesis]
      exact words_append_blank blank [] rest
  | @word piece rest pieces nonempty plain parted spaced inductionHypothesis =>
      cases rest with
      | nil =>
          rw [List.append_nil, words_plain nonempty plain, ← inductionHypothesis]
          rfl
      | cons c behind =>
          have blank : isBlank c = true := parted c rfl
          have shorter : words (c :: behind) = words behind := words_append_blank blank [] behind
          rw [words_append_blank blank, words_plain nonempty plain, ← shorter, inductionHypothesis]
          rfl

theorem exists_spaced (text : Text) : ∃ pieces, Spaced pieces text := by
  induction text with
  | nil => exact ⟨[], .nil⟩
  | cons head tail inductionHypothesis =>
      rcases inductionHypothesis with ⟨pieces, spaced⟩
      cases blank : isBlank head with
      | true => exact ⟨pieces, .blank blank spaced⟩
      | false =>
          have plain : ∀ c ∈ [head], isBlank c = false := by simpa using blank
          -- a character that is no blank joins the word that begins behind it, if one does
          cases spaced with
          | nil => exact ⟨[[head]], .word (List.cons_ne_nil _ _) plain (by simp) .nil⟩
          | blank behind spaced =>
              refine ⟨[head] :: pieces, .word (List.cons_ne_nil _ _) plain ?_ (.blank behind spaced)⟩
              simpa using behind
          | @word piece rest others nonempty piecePlain parted spaced =>
              refine ⟨(head :: piece) :: others, .word (List.cons_ne_nil _ _) ?_ parted spaced⟩
              exact List.forall_mem_cons.mpr ⟨blank, piecePlain⟩

theorem words_eq_iff {pieces : List Text} : words text = pieces ↔ Spaced pieces text := by
  constructor
  · rintro rfl
    rcases exists_spaced text with ⟨pieces, spaced⟩
    rw [spaced.words_eq]
    exact spaced
  · exact Spaced.words_eq

/-- A word is not empty and has no blank in it. -/
theorem Spaced.word_of_mem {pieces : List Text} (spaced : Spaced pieces text)
    (member : piece ∈ pieces) :
    piece ≠ [] ∧ ∀ c ∈ piece, isBlank c = false := by
  induction spaced with
  | nil => cases member
  | blank blank spaced inductionHypothesis => exact inductionHypothesis member
  | word nonempty plain parted spaced inductionHypothesis =>
      rcases List.mem_cons.mp member with rfl | later
      · exact ⟨nonempty, plain⟩
      · exact inductionHypothesis later

theorem word_of_mem_words (member : piece ∈ words text) :
    piece ≠ [] ∧ ∀ c ∈ piece, isBlank c = false :=
  (words_eq_iff.mp rfl).word_of_mem member

end Reformat.Text
