import Reformat.Proofs.Occurrences
import Reformat.Proofs.Report

/-!
The grammar of reports, said without a scan: where elements open, what their tags hold and where
they end. Main statement: nothing opens between the start and the end of a `replacement` element
just where nothing opens inside its tag.
-/

namespace Reformat.Replacements

open Text

/-! ## Where elements open -/

/-- A text starts with `<` and a name that ends there: no word character follows. -/
def Opens (name text : Text) : Prop :=
  ∃ rest, text = '<' :: (name ++ rest) ∧ ∀ c ∈ rest.head?, isWordChar c = false

theorem opening?_eq_some_iff {name text rest : Text} :
    opening? name text = some rest ↔
      text = '<' :: (name ++ rest) ∧ ∀ c ∈ rest.head?, isWordChar c = false := by
  constructor
  · intro found
    obtain ⟨behind, marked, ends⟩ := Option.bind_eq_some_iff.mp found
    have text_eq := Scan.eq_append_of_dropMark marked
    by_cases inside : behind.head?.any isWordChar = true
    · rw [if_pos inside] at ends
      exact absurd ends (by simp)
    · rw [if_neg inside] at ends
      cases Option.some.inj ends
      refine ⟨text_eq, ?_⟩
      intro c member
      rw [Option.mem_def.mp member] at inside
      exact Bool.eq_false_iff.mpr inside
  · rintro ⟨rfl, ends⟩
    apply opening?_append
    cases head : rest.head? with
    | none => rfl
    | some c => exact ends c head

theorem isSome_opening?_iff {name text : Text} :
    (opening? name text).isSome = true ↔ Opens name text := by
  simp only [Option.isSome_iff_exists, opening?_eq_some_iff, Opens]

instance (name : Text) : DecidablePred (Opens name) :=
  fun _ => decidable_of_iff _ isSome_opening?_iff

/-- What is left of a text from each opening of an element on, from the first one on. -/
def openings (name text : Text) : List Text :=
  Scan.places (Opens name) text

theorem not_opens_nil (name : Text) : ¬ Opens name [] := by
  rintro ⟨rest, text, -⟩
  exact absurd text (by simp)

theorem not_opens_cons {name : Text} {c : Char} (different : c ≠ '<') (rest : Text) :
    ¬ Opens name (c :: rest) := by
  rintro ⟨behind, text, -⟩
  exact different (List.cons.inj text).1

theorem openings_nil (name : Text) : openings name [] = [] :=
  Scan.places_nil (not_opens_nil name)

theorem opens_of_mem_openings {name text place : Text} (member : place ∈ openings name text) :
    Opens name place :=
  of_decide_eq_true (List.mem_filter.mp member).2

theorem count_opening? (name text : Text) :
    Scan.count (opening? name) text = (openings name text).length :=
  Scan.count_eq_length_places (fun _ => isSome_opening?_iff) text

theorem first_opening?_eq_some_iff {name text behind : Text} :
    Scan.first (opening? name) text = some behind ↔
      (openings name text).head? = some ('<' :: (name ++ behind)) := by
  have finds : ∀ text rest, opening? name text = some rest → Opens name text :=
    fun _ _ here => isSome_opening?_iff.mp (Option.isSome_iff_exists.mpr ⟨_, here⟩)
  have searched : Scan.first (opening? name) text =
      (openings name text).findSome? (opening? name) :=
    Scan.first_eq_findSome?_places finds text
  rw [searched]
  cases places : openings name text with
  | nil => simp
  | cons place others =>
      have member : place ∈ openings name text := by
        rw [places]
        exact List.mem_cons_self
      obtain ⟨rest, place_eq, ends⟩ := opens_of_mem_openings member
      have here := opening?_eq_some_iff.mpr ⟨place_eq, ends⟩
      rw [List.findSome?_cons, here, List.head?_cons, place_eq]
      simp

theorem openings_append {before : Text} (absent : '<' ∉ before) (name rest : Text) :
    openings name (before ++ rest) = openings name rest := by
  induction before with
  | nil => rfl
  | cons head tail ih =>
      rw [List.mem_cons, not_or] at absent
      rw [List.cons_append, openings, Scan.places_cons_of_not_opens
        (not_opens_cons (Ne.symm absent.1) _)]
      exact ih absent.2

/-- Whether a name opens does not depend on what stands behind a character that cannot belong to
it. -/
theorem opens_append_cons_iff {name : Text} {c : Char}
    (foreign : c ∉ '<' :: name) (ends : isWordChar c = false) (text rest : Text) :
    Opens name (text ++ c :: rest) ↔ Opens name text := by
  constructor
  · rintro ⟨behind, equality, boundary⟩
    rw [← List.cons_append] at equality
    rcases List.append_eq_append_iff.mp equality with
      ⟨more, marked, remaining⟩ | ⟨more, rfl, remaining⟩
    · cases more with
      | nil =>
          rw [List.append_nil] at marked
          exact ⟨[], by simp [← marked], by simp⟩
      | cons head others =>
          rw [List.cons_append] at remaining
          have member : c ∈ '<' :: name := by
            rw [marked, (List.cons.inj remaining).1]
            simp
          exact absurd member foreign
    · refine ⟨more, by simp, ?_⟩
      intro head member
      apply boundary
      rw [remaining, Option.mem_def, List.head?_append, Option.mem_def.mp member]
      rfl
  · rintro ⟨behind, rfl, boundary⟩
    refine ⟨behind ++ c :: rest, by simp, ?_⟩
    intro head member
    cases behind with
    | nil =>
        cases Option.mem_some.mp member
        exact ends
    | cons first others => exact boundary head member

theorem openings_append_cons {name : Text} {c : Char}
    (foreign : c ∉ '<' :: name) (ends : isWordChar c = false) (text rest : Text) :
    openings name (text ++ c :: rest) =
      (openings name text).map (· ++ c :: rest) ++ openings name rest := by
  have different : c ≠ '<' := by
    rintro rfl
    exact foreign List.mem_cons_self
  induction text with
  | nil =>
      rw [openings_nil, List.nil_append, openings, Scan.places_cons_of_not_opens
        (not_opens_cons different rest)]
      rfl
  | cons head tail ih =>
      have same := opens_append_cons_iff foreign ends (head :: tail) rest
      rw [List.cons_append] at same ⊢
      unfold openings at ih ⊢
      by_cases here : Opens name (head :: tail)
      · rw [Scan.places_cons_of_opens (same.mpr here), Scan.places_cons_of_opens here, ih]
        rfl
      · rw [Scan.places_cons_of_not_opens (mt same.mp here),
          Scan.places_cons_of_not_opens here, ih]

/-! ## Tags and elements -/

/-- What stands behind the name of a tag: the tag ends with the first `>`, and a `/` before it
closes the element. -/
inductive IsTag : Text → Tag → Prop
  | selfClosing {inside rest : Text} :
      '>' ∉ inside →
      IsTag (inside ++ '/' :: '>' :: rest) ⟨inside, true, rest⟩
  | plain {inside rest : Text} :
      '>' ∉ inside →
      inside.getLast? ≠ some '/' →
      IsTag (inside ++ '>' :: rest) ⟨inside, false, rest⟩

/-- A `replacement` element at the front of a text, and the text behind it. -/
inductive IsElement : Text → Element → Text → Prop
  | selfClosing {behind inside rest : Text} :
      IsTag behind ⟨inside, true, rest⟩ →
      IsElement ('<' :: ("replacement".toList ++ behind)) ⟨inside, []⟩ rest
  | filled {behind inside content blanks rest : Text} :
      IsTag behind
        ⟨inside, false,
          content ++ ("</replacement".toList ++ (blanks ++ '>' :: rest))⟩ →
      '<' ∉ content →
      (∀ c ∈ blanks, isBlank c = true) →
      IsElement ('<' :: ("replacement".toList ++ behind)) ⟨inside, content⟩ rest

theorem openings_of_isTag {behind : Text} {tag : Tag} (isTag : IsTag behind tag) :
    ∃ closing : Text,
      openings "replacement".toList behind =
        (openings "replacement".toList tag.inside).map (· ++ closing) ++
          openings "replacement".toList tag.rest := by
  cases isTag with
  | @selfClosing inside rest absent =>
      have noOpening : '<' ∉ ['>'] := by decide
      have passed := openings_append noOpening "replacement".toList rest
      refine ⟨'/' :: '>' :: rest, ?_⟩
      rw [openings_append_cons (by decide) (by decide)]
      exact congrArg _ passed
  | @plain inside rest absent last =>
      exact ⟨'>' :: rest, openings_append_cons (by decide) (by decide) inside rest⟩

/-- From the start of an element to its end nothing opens but inside its tag. -/
theorem openings_of_isElement {place after : Text} {element : Element}
    (isElement : IsElement place element after) (opens : Opens "replacement".toList place) :
    ∃ closing : Text,
      openings "replacement".toList place =
        place :: ((openings "replacement".toList element.inside).map (· ++ closing) ++
          openings "replacement".toList after) := by
  have name : '<' ∉ "replacement".toList := by decide
  cases isElement with
  | @selfClosing behind inside _ isTag =>
      obtain ⟨closing, inTag⟩ := openings_of_isTag isTag
      refine ⟨closing, ?_⟩
      rw [openings, Scan.places_cons_of_opens opens, ← inTag]
      exact congrArg _ (openings_append name _ behind)
  | @filled behind inside content blanks _ isTag plain blank =>
      obtain ⟨closing, inTag⟩ := openings_of_isTag isTag
      refine ⟨closing, ?_⟩
      have unblank : '<' ∉ blanks := fun member => absurd (blank '<' member) (by decide)
      have notHere :
          ¬ Opens "replacement".toList ("</replacement".toList ++ (blanks ++ '>' :: after)) := by
        rintro ⟨others, equality, -⟩
        exact absurd equality (by simp)
      have endTag : '<' ∉ "/replacement".toList ++ (blanks ++ ['>']) := by
        simp only [List.mem_append, not_or]
        exact ⟨by decide, unblank, by decide⟩
      have passed := openings_append endTag "replacement".toList after
      rw [List.append_assoc, List.append_assoc, List.singleton_append] at passed
      have behindContent :
          openings "replacement".toList
              (content ++ ("</replacement".toList ++ (blanks ++ '>' :: after))) =
            openings "replacement".toList after := by
        rw [openings_append plain]
        exact (Scan.places_cons_of_not_opens notHere).trans passed
      change _ = _ ++ openings _ (content ++ _) at inTag
      rw [behindContent] at inTag
      rw [openings, Scan.places_cons_of_opens opens, ← inTag]
      exact congrArg _ (openings_append name _ behind)

/-- Nothing else opens in an element just where nothing opens in its tag. -/
theorem openings_eq_cons_iff {place after : Text} {element : Element}
    (isElement : IsElement place element after) (opens : Opens "replacement".toList place) :
    openings "replacement".toList place = place :: openings "replacement".toList after ↔
      openings "replacement".toList element.inside = [] := by
  obtain ⟨closing, split⟩ := openings_of_isElement isElement opens
  rw [split]
  simp

/-! ## Numbers and attributes -/

/-- A number of 64 bits as it may be written: with a plus sign or without, and with any zeros in
front. -/
def IsNumber (value : Text) (n : Nat) : Prop :=
  n < UInt64.size ∧
    ∃ digits, (value = digits ∨ value = '+' :: digits) ∧ digits ≠ [] ∧
      (∀ c ∈ digits, c.isDigit = true) ∧ Nat.ofDigitChars 10 digits 0 = n

/-- A name with its value in quotes at the front of a text, and the text behind them. -/
inductive IsAttribute : Text → Text × Text → Text → Prop
  | mk {start mark : Char} {others before behind value rest : Text} :
      start.isAlpha = true ∨ start = '_' →
      (∀ c ∈ others, isWordChar c = true ∨ c ∈ [':', '.', '-']) →
      (∀ c ∈ before, isBlank c = true) →
      (∀ c ∈ behind, isBlank c = true) →
      mark = '\'' ∨ mark = '"' →
      mark ∉ value →
      IsAttribute
        (start :: others ++ (before ++ '=' :: (behind ++ mark :: (value ++ mark :: rest))))
        (start :: others, value) rest

/-- The attributes of a text from left to right. One stands wherever it can, but not inside of the
one before it. -/
inductive HasAttributes : Text → List (Text × Text) → Prop
  | nil : HasAttributes [] []
  | found {text rest : Text} {entry : Text × Text} {given : List (Text × Text)} :
      IsAttribute text entry rest →
      HasAttributes rest given →
      HasAttributes text (entry :: given)
  | passed {c : Char} {text : Text} {given : List (Text × Text)} :
      (∀ entry rest, ¬ IsAttribute (c :: text) entry rest) →
      HasAttributes text given →
      HasAttributes (c :: text) given

/-- The last attribute of a name has a value. -/
def HasValue (inside name value : Text) : Prop :=
  ∃ earlier later,
    HasAttributes inside (earlier ++ (name, value) :: later) ∧ ∀ given ∈ later, given.1 ≠ name

def HasNumber (inside name : Text) (n : Nat) : Prop :=
  ∃ value, HasValue inside name value ∧ IsNumber value n

/-- What an element says of an edit. -/
structure Describes (element : Element) (edit : Edit) : Prop where
  offset : HasNumber element.inside "offset".toList edit.offset
  length : HasNumber element.inside "length".toList edit.length
  text :
    edit.text = if element.content = [] then none else some (CharRef.decode element.content)

/-- At an opening stands an element of its own, which says what an edit is. -/
def DescribesAt (place : Text) (edit : Edit) : Prop :=
  ∃ element after, IsElement place element after ∧
    openings "replacement".toList element.inside = [] ∧ Describes element edit

/-! ## Reports -/

/-- The only `cursor` element of a text, if one opens there, and the number it holds between
blanks. -/
inductive HasCursor (body : Text) : Option Nat → Prop
  | absent :
      openings "cursor".toList body = [] →
      HasCursor body none
  | placed {content rest : Text} {offset : Nat} :
      openings "cursor".toList body =
        ["<cursor>".toList ++ (content ++ ("</cursor>".toList ++ rest))] →
      '<' ∉ content →
      IsNumber (trim content) offset →
      HasCursor body (some offset)

/-- The content of the element that a tag opens. -/
def Tag.body (tag : Tag) : Text :=
  if tag.selfClosing then [] else tag.rest

/-- A text in which a root element opens, with all that it has to hold for a batch. -/
inductive IsReport (output : Text) (batch : Batch) : Prop
  | mk {behind : Text} {root : Tag} :
      (openings "replacements".toList output).head? =
        some ('<' :: ("replacements".toList ++ behind)) →
      IsTag behind root →
      (batch.incomplete = true ↔
        HasValue root.inside "incomplete_format".toList "true".toList) →
      HasCursor root.body batch.cursor →
      List.Forall₂ DescribesAt (openings "replacement".toList root.body) batch.edits →
      IsReport output batch

end Reformat.Replacements
