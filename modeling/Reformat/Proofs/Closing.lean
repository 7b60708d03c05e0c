import Reformat.Proofs.Scanning

/-!
Texts in which no element opens. Main statements: a scan for start tags passes over such a text,
whatever stands behind it, and finds nothing in what such a text begins with.
-/

namespace Reformat.Replacements

open Text

/-- A pattern that finds something only where a start tag may be. -/
structure Opener {α : Type} (pattern : Text → Option α) : Prop where
  begins : Scan.BeginsWith '<' pattern
  alone : pattern ['<'] = none
  closing : ∀ rest, pattern ('<' :: '/' :: rest) = none

/-- No tags begin in the text but end tags. -/
inductive Closed : Text → Prop where
  | nil :
      Closed []
  | plain {c : Char} {rest : Text}
      (different : c ≠ '<')
      (closed : Closed rest) :
      Closed (c :: rest)
  | closing {rest : Text}
      (closed : Closed rest) :
      Closed ('<' :: '/' :: rest)

namespace Closed

variable {text part : Text}

theorem of_not_mem (absent : '<' ∉ text) : Closed text := by
  induction text with
  | nil => exact .nil
  | cons head tail inductionHypothesis =>
      rw [List.mem_cons, not_or] at absent
      exact .plain (Ne.symm absent.1) (inductionHypothesis absent.2)

theorem append {front back : Text} (first : Closed front) (second : Closed back) :
    Closed (front ++ back) := by
  induction first with
  | nil => exact second
  | plain different _ inductionHypothesis => exact .plain different inductionHypothesis
  | closing _ inductionHypothesis => exact .closing inductionHypothesis

/-- What such a text begins with is such a text again, but that its last tag may have just begun. -/
theorem of_isPrefix (closed : Closed text) (isPrefix : part <+: text) :
    Closed part ∨ ∃ front, Closed front ∧ part = front ++ ['<'] := by
  induction closed generalizing part with
  | nil =>
      rw [List.prefix_nil.mp isPrefix]
      exact Or.inl .nil
  | @plain c rest different _ inductionHypothesis =>
      rcases List.prefix_cons_iff.mp isPrefix with rfl | ⟨tail, rfl, shorter⟩
      · exact Or.inl .nil
      · rcases inductionHypothesis shorter with closed | ⟨front, closed, rfl⟩
        · exact Or.inl (.plain different closed)
        · exact Or.inr ⟨c :: front, .plain different closed, rfl⟩
  | @closing rest _ inductionHypothesis =>
      rcases List.prefix_cons_iff.mp isPrefix with rfl | ⟨tail, rfl, shorter⟩
      · exact Or.inl .nil
      · -- the cut may go between the two characters that an end tag begins with
        rcases List.prefix_cons_iff.mp shorter with rfl | ⟨others, rfl, shortest⟩
        · exact Or.inr ⟨[], .nil, rfl⟩
        · rcases inductionHypothesis shortest with closed | ⟨front, closed, rfl⟩
          · exact Or.inl (.closing closed)
          · exact Or.inr ⟨'<' :: '/' :: front, .closing closed, rfl⟩

section

variable {α : Type} {pattern : Text → Option α}

theorem count_append (opener : Opener pattern) (closed : Closed text) (rest : Text) :
    Scan.count pattern (text ++ rest) = Scan.count pattern rest := by
  induction closed with
  | nil => rfl
  | plain different _ inductionHypothesis =>
      rw [List.cons_append, Scan.count, opener.begins.cons _ different, inductionHypothesis]
      exact Nat.zero_add _
  | closing _ inductionHypothesis =>
      rw [List.cons_append, List.cons_append, Scan.count, opener.closing, Scan.count,
        opener.begins.cons _ (by decide), inductionHypothesis]
      simp

theorem first_append (opener : Opener pattern) (closed : Closed text) (rest : Text) :
    Scan.first pattern (text ++ rest) = Scan.first pattern rest := by
  induction closed with
  | nil => rfl
  | plain different _ inductionHypothesis =>
      rw [List.cons_append, Scan.first, opener.begins.cons _ different]
      exact inductionHypothesis
  | closing _ inductionHypothesis =>
      rw [List.cons_append, List.cons_append, Scan.first, opener.closing]
      change Scan.first pattern ('/' :: _) = _
      rw [Scan.first, opener.begins.cons _ (by decide)]
      exact inductionHypothesis

theorem all_append {pattern : Text → Option (α × Text)} (opener : Opener pattern)
    (closed : Closed text) (rest : Text) :
    Scan.all pattern (text ++ rest) = Scan.all pattern rest := by
  induction closed with
  | nil => rfl
  | plain different _ inductionHypothesis =>
      rw [List.cons_append, Scan.all, opener.begins.cons _ different]
      exact inductionHypothesis
  | closing _ inductionHypothesis =>
      rw [List.cons_append, List.cons_append, Scan.all, opener.closing]
      change Scan.all pattern ('/' :: _) = _
      rw [Scan.all, opener.begins.cons _ (by decide)]
      exact inductionHypothesis

theorem first_tag_append (opener : Opener pattern) (closed : Closed text) {rest : Text}
    (nothing : pattern ('<' :: text ++ rest) = none) :
    Scan.first pattern ('<' :: text ++ rest) = Scan.first pattern rest := by
  rw [List.cons_append] at nothing ⊢
  rw [Scan.first, nothing]
  exact closed.first_append opener rest

theorem all_tag_append {pattern : Text → Option (α × Text)} (opener : Opener pattern)
    (closed : Closed text) {rest : Text} (nothing : pattern ('<' :: text ++ rest) = none) :
    Scan.all pattern ('<' :: text ++ rest) = Scan.all pattern rest := by
  rw [List.cons_append] at nothing ⊢
  rw [Scan.all, nothing]
  exact closed.all_append opener rest

theorem count_of_isPrefix (opener : Opener pattern) (closed : Closed text)
    (isPrefix : part <+: text) : Scan.count pattern part = 0 := by
  rcases closed.of_isPrefix isPrefix with closed | ⟨front, closed, rfl⟩
  · have passed := closed.count_append opener []
    rw [List.append_nil, Scan.count, opener.begins.nil] at passed
    exact passed
  · rw [closed.count_append opener, Scan.count, opener.alone, Scan.count, opener.begins.nil]
    rfl

theorem first_of_isPrefix (opener : Opener pattern) (closed : Closed text)
    (isPrefix : part <+: text) : Scan.first pattern part = none := by
  rcases closed.of_isPrefix isPrefix with closed | ⟨front, closed, rfl⟩
  · have passed := closed.first_append opener []
    rw [List.append_nil, Scan.first, opener.begins.nil] at passed
    exact passed
  · rw [closed.first_append opener, Scan.first, opener.alone]
    exact opener.begins.nil

theorem all_of_isPrefix {pattern : Text → Option (α × Text)} (opener : Opener pattern)
    (closed : Closed text) (isPrefix : part <+: text) : Scan.all pattern part = [] := by
  rcases closed.of_isPrefix isPrefix with closed | ⟨front, closed, rfl⟩
  · have passed := closed.all_append opener []
    rw [List.append_nil, Scan.all] at passed
    exact passed
  · rw [closed.all_append opener, Scan.all, opener.alone]
    change Scan.all pattern [] = []
    rw [Scan.all]

end

end Closed

end Reformat.Replacements
