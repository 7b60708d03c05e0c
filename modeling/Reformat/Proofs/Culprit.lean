import Mathlib.Data.List.Perm.Subperm
import Reformat.Proofs.Rearrangement
import Reformat.Proofs.Translation

/-!
What a refused batch is blamed on. Main statement: the check complains of the first edit, in
descending order, that does not fit the document or reaches into the edit before it, and all that
the complaint names is there.
-/

namespace Reformat

namespace Edit

def span (edit : Edit) : Span :=
  ⟨edit.offset, edit.stop⟩

def IsInside (document : Document) (edit : Edit) : Prop :=
  edit.stop < UInt64.size ∧ edit.stop ≤ document.size

/-- What is wrong with an edit by itself. Nothing is said of an end before all that comes in front of
it is right: the bounds, the start, the end. -/
inductive Misplaced (document : Document) (edit : Edit) : Misfit → Prop where
  | outside
      (outside : ¬ edit.IsInside document) :
      Misplaced document edit (.outOfBounds edit.offset edit.length document.size)
  | start
      (inside : edit.IsInside document)
      (parted : ¬ IsBoundary document.chars edit.offset) :
      Misplaced document edit (.misaligned edit.offset)
  | stop
      (inside : edit.IsInside document)
      (aligned : IsBoundary document.chars edit.offset)
      (parted : ¬ IsBoundary document.chars edit.stop) :
      Misplaced document edit (.misaligned edit.stop)

/-- What is wrong with an edit whose `neighbour` is the one before it in descending order. -/
inductive Offends (document : Document) (neighbour : Option Edit) (edit : Edit) : Misfit → Prop where
  | misplaced {cause : Misfit}
      (misplaced : edit.Misplaced document cause) :
      Offends document neighbour edit cause
  | reaches {upper : Edit}
      (behind : neighbour = some upper)
      (fits : edit.Fits document.chars)
      (reaches : upper.offset < edit.stop) :
      Offends document neighbour edit (.overlap edit.span upper.span)

/-! ## One edit -/

section

variable {document : Document} {edit : Edit} {cause : Misfit}

theorem charAtByte_of_parted {offset : Nat} (inside : offset ≤ document.size)
    (parted : ¬ IsBoundary document.chars offset) :
    document.charAtByte offset = .error (.misaligned offset) := by
  rw [Document.charAtByte_of_not_isBoundary parted, if_neg (Nat.not_lt.mpr inside)]

theorem place_of_outside (outside : ¬ edit.IsInside document) :
    edit.place document = .error (.outOfBounds edit.offset edit.length document.size) := by
  unfold place
  rw [filter_stop?_of_outside outside]
  rfl

theorem place_of_inside (inside : edit.IsInside document) :
    edit.place document = (do
      let _ ← document.charAtByte edit.offset
      let _ ← document.charAtByte edit.stop
      return edit.span) := by
  unfold place
  rw [filter_stop?_of_inside inside]
  rfl

theorem place_of_start (inside : edit.IsInside document)
    (parted : ¬ IsBoundary document.chars edit.offset) :
    edit.place document = .error (.misaligned edit.offset) := by
  have bound : edit.offset ≤ document.size := Nat.le_trans edit.offset_le_stop inside.2
  rw [place_of_inside inside, charAtByte_of_parted bound parted]
  rfl

theorem place_of_stop (inside : edit.IsInside document)
    (aligned : IsBoundary document.chars edit.offset)
    (parted : ¬ IsBoundary document.chars edit.stop) :
    edit.place document = .error (.misaligned edit.stop) := by
  rw [place_of_inside inside, Document.charAtByte_eq_ok_iff.mpr ⟨aligned, rfl⟩,
    charAtByte_of_parted inside.2 parted]
  rfl

theorem place_eq_error_iff :
    edit.place document = .error cause ↔ edit.Misplaced document cause := by
  constructor
  · intro refused
    by_cases inside : edit.IsInside document
    · by_cases first : IsBoundary document.chars edit.offset
      · by_cases last : IsBoundary document.chars edit.stop
        · rw [place_eq_ok_iff.mpr ⟨⟨inside.1, inside.2, first, last⟩, rfl⟩] at refused
          cases refused
        · rw [place_of_stop inside first last] at refused
          cases refused
          exact .stop inside first last
      · rw [place_of_start inside first] at refused
        cases refused
        exact .start inside first
    · rw [place_of_outside inside] at refused
      cases refused
      exact .outside inside
  · intro misplaced
    cases misplaced with
    | outside outside => exact place_of_outside outside
    | start inside parted => exact place_of_start inside parted
    | stop inside aligned parted => exact place_of_stop inside aligned parted

end

/-! ## Edits in order -/

section

variable {document : Document} {neighbour : Option Edit} {edits : List Edit} {cause : Misfit}

theorem offends_iff {edit : Edit} :
    edit.Offends document neighbour cause ↔
      edit.Misplaced document cause ∨
        edit.Fits document.chars ∧ ∃ upper ∈ neighbour,
          upper.offset < edit.stop ∧ .overlap edit.span upper.span = cause := by
  constructor
  · intro offends
    cases offends with
    | misplaced misplaced => exact Or.inl misplaced
    | reaches behind fits reaches => exact Or.inr ⟨fits, _, behind, reaches, rfl⟩
  · intro either
    rcases either with misplaced | ⟨fits, upper, behind, reaches, rfl⟩
    · exact .misplaced misplaced
    · exact .reaches behind fits reaches

theorem validate_cons_eq_error_iff {edit : Edit} {rest : List Edit} :
    validate document (neighbour.map span) (edit :: rest) = .error cause ↔
      edit.Offends document neighbour cause ∨
        (edit.Fits document.chars ∧ ∀ upper ∈ neighbour, edit.stop ≤ upper.offset) ∧
          validate document (some edit.span) rest = .error cause := by
  rw [validate, offends_iff]
  simp only [bind_eq_error_iff, place_eq_error_iff, place_eq_ok_iff, and_assoc, exists_eq_left',
    exists_and_left]
  cases neighbour with
  | none => simp [span]
  | some upper =>
      simp only [Option.map_some, guard_eq_error_iff, Option.mem_some_iff, exists_eq_left',
        forall_eq', span, Nat.not_lt, and_or_left, or_assoc]

theorem validate_cons_eq_ok_iff_neighbour {edit : Edit} {rest : List Edit} :
    validate document (neighbour.map span) (edit :: rest) = .ok () ↔
      (edit.Fits document.chars ∧ ∀ upper ∈ neighbour, edit.stop ≤ upper.offset) ∧
        validate document (some edit.span) rest = .ok () := by
  rw [validate_cons_eq_ok_iff, and_assoc]
  simp [span]

theorem getLast?_cons_or (head : Edit) (before : List Edit) :
    (head :: before).getLast?.or neighbour = before.getLast?.or (some head) := by
  rw [List.getLast?_cons]
  cases before.getLast? with
  | none => rfl
  | some last => rfl

/-- The check fails at the first edit that offends; those before it pass. -/
theorem validate_eq_error_iff :
    validate document (neighbour.map span) edits = .error cause ↔
      ∃ before edit after, edits = before ++ edit :: after ∧
        validate document (neighbour.map span) before = .ok () ∧
          edit.Offends document (before.getLast?.or neighbour) cause := by
  induction edits generalizing neighbour with
  | nil => simp [validate, pure, Except.pure]
  | cons head rest inductionHypothesis =>
      have later := @inductionHypothesis (some head)
      rw [Option.map_some] at later
      rw [validate_cons_eq_error_iff, later]
      constructor
      · intro failed
        rcases failed with offends | ⟨follows, before, edit, after, rfl, checked, offends⟩
        · exact ⟨[], head, rest, rfl, rfl, offends⟩
        · refine ⟨head :: before, edit, after, rfl, ?_, ?_⟩
          · exact validate_cons_eq_ok_iff_neighbour.mpr ⟨follows, checked⟩
          · rwa [getLast?_cons_or]
      · intro failed
        rcases failed with ⟨before, edit, after, split, checked, offends⟩
        cases before with
        | nil =>
            rcases List.cons.inj split with ⟨rfl, -⟩
            exact Or.inl offends
        | cons first others =>
            rcases List.cons.inj split with ⟨rfl, rfl⟩
            rcases validate_cons_eq_ok_iff_neighbour.mp checked with ⟨follows, remaining⟩
            rw [getLast?_cons_or] at offends
            exact Or.inr ⟨follows, others, edit, after, rfl, remaining, offends⟩

end

/-! ## What a complaint names -/

/-- The edits of a batch by descending offset, at one offset by descending length. -/
structure IsDescending (edits ordered : List Edit) : Prop where
  perm : ordered.Perm edits
  sorted : ordered.Pairwise fun upper lower => lower.Ascends upper

theorem isDescending_descending (edits : List Edit) : IsDescending edits (descending edits) :=
  ⟨descending_perm edits, descending_descends edits⟩

/-- The first edit of a batch that offends. -/
structure FirstOffence (document : Document) (before : List Edit) (edit : Edit) (cause : Misfit) :
    Prop where
  fit : ∀ earlier ∈ before, earlier.Fits document.chars
  apart : before.Pairwise Apart
  offends : edit.Offends document before.getLast? cause

/-- A complaint names what is there: an edit of the batch that leaves the document, an offset of an
edit that parts a character, or the spans of two edits that are in place and not disjoint. -/
def Genuine (document : Document) (edits : List Edit) : Misfit → Prop
  | .outOfBounds offset length size =>
      size = document.size ∧
        ∃ edit ∈ edits, edit.offset = offset ∧ edit.length = length ∧ ¬ edit.IsInside document
  | .misaligned offset =>
      offset ≤ document.size ∧ ¬ IsBoundary document.chars offset ∧
        ∃ edit ∈ edits, edit.IsInside document ∧ (edit.offset = offset ∨ edit.stop = offset)
  | .overlap lower upper =>
      lower.start ≤ upper.start ∧ upper.start < lower.stop ∧
        ∃ first second, [first, second].Subperm edits ∧
          first.Fits document.chars ∧ second.Fits document.chars ∧
            first.span = lower ∧ second.span = upper ∧ ¬ first.Apart second

section

variable {document : Document} {edits before after ordered : List Edit} {edit : Edit}
  {cause : Misfit}

theorem IsDescending.validate_eq (ranked : IsDescending edits ordered) :
    validate document none (descending edits) = validate document none ordered := by
  apply validate_congr
  apply map_key_eq_of_perm _ (descending_descends edits) ranked.sorted
  exact (descending_perm edits).trans ranked.perm.symm

theorem IsDescending.validate_eq_error_iff (ranked : IsDescending edits ordered) :
    validate document none (descending edits) = .error cause ↔
      ∃ before edit after,
        ordered = before ++ edit :: after ∧ FirstOffence document before edit cause := by
  have failure := @Edit.validate_eq_error_iff document none ordered cause
  simp only [Option.map_none, Option.or_none, validate_eq_ok_iff] at failure
  rw [ranked.validate_eq, failure]
  constructor
  · intro failed
    rcases failed with ⟨before, edit, after, split, ⟨fit, -, above⟩, offends⟩
    exact ⟨before, edit, after, split, fit, above.imp Or.inr, offends⟩
  · intro failed
    rcases failed with ⟨before, edit, after, split, first⟩
    have sorted := ranked.sorted
    rw [split, List.pairwise_append] at sorted
    have above := (pairwise_isAbove_iff sorted.1).mpr first.apart
    exact ⟨before, edit, after, split, ⟨first.fit, by simp, above⟩, first.offends⟩

theorem FirstOffence.genuine (first : FirstOffence document before edit cause)
    (ranked : IsDescending edits (before ++ edit :: after)) :
    Genuine document edits cause := by
  have member : edit ∈ edits := ranked.perm.mem_iff.mp (by simp)
  cases first.offends with
  | misplaced misplaced =>
      cases misplaced with
      | outside outside => exact ⟨rfl, edit, member, rfl, rfl, outside⟩
      | start inside parted =>
          have bound := Nat.le_trans edit.offset_le_stop inside.2
          exact ⟨bound, parted, edit, member, inside, Or.inl rfl⟩
      | stop inside aligned parted =>
          exact ⟨inside.2, parted, edit, member, inside, Or.inr rfl⟩
  | @reaches upper behind fits reaches =>
      rcases List.getLast?_eq_some_iff.mp behind with ⟨init, rfl⟩
      have upperMember : upper ∈ init ++ [upper] := by simp
      have ascends : edit.Ascends upper :=
        (List.pairwise_append.mp ranked.sorted).2.2 upper upperMember edit List.mem_cons_self
      have pair : [upper, edit].Sublist (init ++ [upper] ++ edit :: after) :=
        (List.sublist_append_right init [upper]).append (List.Sublist.cons_cons edit
          (List.nil_sublist after))
      have two : [edit, upper].Subperm edits :=
        (List.Perm.swap upper edit []).subperm.trans
          (pair.subperm.trans ranked.perm.subperm)
      unfold Ascends at ascends
      unfold stop at reaches
      refine ⟨?_, reaches, edit, upper, two, fits, first.fit upper upperMember, rfl, rfl, ?_⟩
      · change edit.offset ≤ upper.offset
        omega
      · unfold Apart stop
        omega

end

end Edit

namespace Document

/-- The check of a batch complains of the first edit in descending order that is out of bounds, parts
a character or reaches into the one before it; this complaint is all that applying the batch gives,
and what it names is there. -/
theorem refusal_names_culprit
    {document : Document} {batch : Batch} {ordered : List Edit}
    (ranked : Edit.IsDescending batch.edits ordered) (cause : Misfit) :
    (Edit.validate document none (Edit.descending batch.edits) = .error cause ↔
      ∃ before edit after,
        ordered = before ++ edit :: after ∧ Edit.FirstOffence document before edit cause) ∧
      (Edit.validate document none (Edit.descending batch.edits) = .error cause →
        (∀ cursor,
          document.apply cursor batch = .error cause ∧
            (applyHere cursor batch).on document = (.error cause, document)) ∧
          Edit.Genuine document batch.edits cause) := by
  have offence :
      Edit.validate document none (Edit.descending batch.edits) = .error cause ↔
        ∃ before edit after,
          ordered = before ++ edit :: after ∧ Edit.FirstOffence document before edit cause :=
    ranked.validate_eq_error_iff
  refine ⟨offence, ?_⟩
  intro refused
  rcases offence.mp refused with ⟨before, edit, after, rfl, first⟩
  refine ⟨?_, first.genuine ranked⟩
  intro cursor
  have failed : document.apply cursor batch = .error cause := apply_eq_error_of_validate refused
  refine ⟨failed, ?_⟩
  rw [on_applyHere, failed]

/-- An insertion inside of a replaced span, behind an edit that is in place, and an offset inside a
character that is complained of before an edit that leaves the document. -/
theorem refusal_names_culprit_inside_span :
    let document := ofHostText ['a', 'é', '€', 'b']
    let upper : Edit := ⟨6, 1, none⟩
    let inner : Edit := ⟨3, 0, some ['y']⟩
    let outer : Edit := ⟨1, 5, some ['x']⟩
    let crossed : Batch := ⟨[outer, upper, inner], none, false⟩
    let parting : Batch := ⟨[⟨0, 9, none⟩, ⟨4, 2, none⟩, upper], none, false⟩
    let overlap : Misfit := .overlap ⟨1, 6⟩ ⟨3, 3⟩
    Edit.IsDescending crossed.edits [upper, inner, outer] ∧
      (∃ before edit after,
        [upper, inner, outer] = before ++ edit :: after ∧
          Edit.FirstOffence document before edit overlap) ∧
      (applyHere 2 crossed).on document = (.error overlap, document) ∧
      Edit.Genuine document crossed.edits overlap ∧
      document.apply 2 parting = .error (.misaligned 4) ∧
      Edit.Genuine document parting.edits (.misaligned 4) := by
  intro document upper inner outer crossed parting overlap
  have ranked : Edit.IsDescending crossed.edits [upper, inner, outer] :=
    ⟨by decide, by unfold Edit.Ascends; decide⟩
  have refused :
      Edit.validate document none (Edit.descending crossed.edits) = .error overlap := by
    decide +kernel
  have refusedParting :
      Edit.validate document none (Edit.descending parting.edits) = .error (.misaligned 4) := by
    decide +kernel
  rcases refusal_names_culprit ranked overlap with ⟨offence, named⟩
  rcases refusal_names_culprit (Edit.isDescending_descending parting.edits) (.misaligned 4) with
    ⟨-, namedParting⟩
  exact ⟨ranked, offence.mp refused, ((named refused).1 2).2, (named refused).2,
    ((namedParting refusedParting).1 2).1, (namedParting refusedParting).2⟩

end Document

end Reformat
