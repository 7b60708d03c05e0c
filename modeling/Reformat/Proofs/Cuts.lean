import Reformat.Proofs.Invariant

/-!
The host text as pieces of the canonical text with a CR between each two. Main statements: breaks
that fit a text cut it at characters alone, and the pieces with the CRs in between are longer than
the text by one byte for each break and make up the text again without them.
-/

namespace Reformat.Document

/-! ## The breaks of a document -/

/-- What holds of the remembered breaks of a document. -/
structure BreaksFit (document : Document) : Prop where
  ascending : document.crlfBreaks.Pairwise (· < ·)
  inside : ∀ offset ∈ document.crlfBreaks, offset < document.size
  newline : ∀ offset ∈ document.crlfBreaks, document.bytes[offset]? = some 10

theorem Sound.breaksFit {document : Document} (sound : document.Sound) : document.BreaksFit := by
  refine ⟨sound.ascending, fun offset member => (sound.inside offset member).2.2, ?_⟩
  intro offset member
  obtain ⟨before, after, text, reached⟩ := mem_newlineOffsets_iff.mp (sound.mem member)
  have front : (Utf8.encode before).length = offset := by
    rw [Utf8.length_encode]
    omega
  have newline : Utf8.encode ('\n' :: after) = 10 :: Utf8.encode after := by
    rw [Utf8.encode_cons]
    rfl
  rw [bytes, text, Utf8.encode_append, newline, ← front,
    List.getElem?_append_right (Nat.le_refl _), Nat.sub_self, List.getElem?_cons_zero]

/-! ## The host text, cut at its breaks -/

/-- The characters between two offsets, where these are in order and part no character. -/
def slice? (text : Text) (start stop : Nat) : Option Text :=
  if start ≤ stop ∧ IsBoundary text start ∧ IsBoundary text stop then
    some (slice text start stop)
  else
    none

def insertReturns? (text : Text) (last : Nat) : List Nat → Option Text
  | [] => slice? text last (Utf8.size text)
  | offset :: rest => do
      let piece ← slice? text last offset
      let behind ← insertReturns? text offset rest
      return piece ++ '\r' :: behind

/-- The text as the host writes it, with each piece that is taken out of it checked. -/
def hostText? (document : Document) : Option Text :=
  insertReturns? document.chars 0 document.crlfBreaks

/-- The places of the CRs that are put in before the breaks, as byte offsets in the host text. -/
def returnOffsets (breaks : List Nat) (earlier : Nat) : List Nat :=
  (breaks.zipIdx earlier).map fun entry => entry.1 + entry.2

/-- Drops the CRs at given offsets of a text that begins at `start`. -/
def dropReturns (offsets : List Nat) (start : Nat) : Text → Text
  | [] => []
  | c :: rest =>
      if c = '\r' ∧ start ∈ offsets then
        dropReturns offsets (start + c.utf8Size) rest
      else
        c :: dropReturns offsets (start + c.utf8Size) rest

theorem dropReturns_append (offsets : List Nat) (start : Nat) (left right : Text) :
    dropReturns offsets start (left ++ right) =
      dropReturns offsets start left ++
        dropReturns offsets (start + Utf8.size left) right := by
  induction left generalizing start with
  | nil => rfl
  | cons head tail ih =>
      by_cases dropped : head = '\r' ∧ start ∈ offsets
      · rw [List.cons_append, dropReturns, if_pos dropped, dropReturns, if_pos dropped, ih,
          Utf8.size_cons, Nat.add_assoc]
      · rw [List.cons_append, dropReturns, if_neg dropped, dropReturns, if_neg dropped, ih,
          Utf8.size_cons, Nat.add_assoc, List.cons_append]

theorem dropReturns_eq_self {offsets : List Nat} {start : Nat} {text : Text}
    (behind : ∀ offset ∈ offsets, start + Utf8.size text ≤ offset) :
    dropReturns offsets start text = text := by
  induction text generalizing start with
  | nil => rfl
  | cons head tail ih =>
      have width := head.utf8Size_pos
      rw [Utf8.size_cons] at behind
      have kept : ¬ (head = '\r' ∧ start ∈ offsets) := by
        rintro ⟨-, member⟩
        have bound := behind start member
        omega
      have tailBehind :
          ∀ offset ∈ offsets, start + head.utf8Size + Utf8.size tail ≤ offset := by
        intro offset member
        have bound := behind offset member
        omega
      rw [dropReturns, if_neg kept, ih tailBehind]

theorem dropReturns_cons_below {offset start : Nat} (below : offset < start)
    (rest : List Nat) (text : Text) :
    dropReturns (offset :: rest) start text = dropReturns rest start text := by
  induction text generalizing start with
  | nil => rfl
  | cons head tail ih =>
      have different : start ≠ offset := Nat.ne_of_gt below
      have tailSame := ih (Nat.lt_of_lt_of_le below (Nat.le_add_right start head.utf8Size))
      simp only [dropReturns, List.mem_cons, different, false_or, tailSame]

theorem le_of_mem_returnOffsets {breaks : List Nat} {bound earlier offset : Nat}
    (above : ∀ later ∈ breaks, bound ≤ later)
    (member : offset ∈ returnOffsets breaks earlier) :
    bound + earlier ≤ offset := by
  obtain ⟨⟨position, index⟩, found, rfl⟩ := List.mem_map.mp member
  have indexBound := List.le_snd_of_mem_zipIdx found
  have positionBound := above position (List.fst_mem_of_mem_zipIdx found)
  exact Nat.add_le_add positionBound indexBound

section

variable {text : Text} {last offset : Nat} {rest breaks : List Nat}

/-- Breaks from an offset on at which a text can be cut, one after the other. -/
structure Cuts (text : Text) (last : Nat) (breaks : List Nat) : Prop where
  boundary : IsBoundary text last
  ascending : breaks.Pairwise (· < ·)
  inside : ∀ offset ∈ breaks,
    IsBoundary text offset ∧ last ≤ offset ∧ offset < Utf8.size text

theorem Cuts.head (cuts : Cuts text last (offset :: rest)) :
    IsBoundary text offset ∧ last ≤ offset ∧ offset < Utf8.size text :=
  cuts.inside offset List.mem_cons_self

theorem Cuts.above (cuts : Cuts text last (offset :: rest)) : ∀ later ∈ rest, offset < later :=
  (List.pairwise_cons.mp cuts.ascending).1

theorem Cuts.tail (cuts : Cuts text last (offset :: rest)) : Cuts text offset rest := by
  refine ⟨cuts.head.1, (List.pairwise_cons.mp cuts.ascending).2, ?_⟩
  intro later member
  obtain ⟨boundary, -, bound⟩ := cuts.inside later (List.mem_cons_of_mem offset member)
  exact ⟨boundary, Nat.le_of_lt (cuts.above later member), bound⟩

theorem Sound.cuts {document : Document} (sound : document.Sound) :
    Cuts document.chars 0 document.crlfBreaks :=
  ⟨IsBoundary.zero _, sound.ascending, sound.inside⟩

theorem Cuts.insertReturns?_eq (cuts : Cuts text last breaks) :
    insertReturns? text last breaks = some (insertReturns text last breaks) := by
  induction breaks generalizing last with
  | nil =>
      have fits := cuts.boundary.le_size
      simp [insertReturns?, insertReturns, slice?, fits, cuts.boundary, IsBoundary.size]
  | cons offset rest ih =>
      obtain ⟨boundary, reached, -⟩ := cuts.head
      simp [insertReturns?, insertReturns, slice?, reached, cuts.boundary, boundary, ih cuts.tail]

theorem Cuts.size_insertReturns (cuts : Cuts text last breaks) :
    last + Utf8.size (insertReturns text last breaks) = Utf8.size text + breaks.length := by
  induction breaks generalizing last with
  | nil =>
      rw [insertReturns, size_slice cuts.boundary (IsBoundary.size text) cuts.boundary.le_size]
      rfl
  | cons offset rest ih =>
      obtain ⟨boundary, reached, -⟩ := cuts.head
      have width := size_slice cuts.boundary boundary reached
      have behind := ih cuts.tail
      have returnSize : ('\r' : Char).utf8Size = 1 := rfl
      rw [insertReturns, Utf8.size_append, Utf8.size_cons, List.length_cons, returnSize]
      omega

/-- Without the CRs that were put in, the pieces make up the text again. -/
theorem Cuts.dropReturns_insertReturns (cuts : Cuts text last breaks) (earlier : Nat) :
    dropReturns (returnOffsets breaks earlier) (last + earlier) (insertReturns text last breaks) =
      slice text last (Utf8.size text) := by
  induction breaks generalizing last earlier with
  | nil => exact dropReturns_eq_self fun _ member => absurd member List.not_mem_nil
  | cons offset rest ih =>
      obtain ⟨boundary, reached, bound⟩ := cuts.head
      have width := size_slice cuts.boundary boundary reached
      have place : last + earlier + Utf8.size (slice text last offset) = offset + earlier := by
        omega
      have returns :
          returnOffsets (offset :: rest) earlier =
            (offset + earlier) :: returnOffsets rest (earlier + 1) := rfl
      -- a CR that the piece itself holds is at none of the places
      have behind :
          ∀ position ∈ returnOffsets (offset :: rest) earlier,
            last + earlier + Utf8.size (slice text last offset) ≤ position := by
        intro position member
        rw [place]
        apply le_of_mem_returnOffsets _ member
        intro later found
        rcases List.mem_cons.mp found with equality | further
        · exact Nat.le_of_eq equality.symm
        · exact Nat.le_of_lt (cuts.above later further)
      have returnSize : ('\r' : Char).utf8Size = 1 := rfl
      have dropped :
          '\r' = '\r' ∧ offset + earlier ∈ returnOffsets (offset :: rest) earlier :=
        ⟨rfl, by rw [returns]; exact List.mem_cons_self⟩
      rw [insertReturns, dropReturns_append, dropReturns_eq_self behind, place, dropReturns,
        if_pos dropped, returnSize, returns, dropReturns_cons_below (Nat.lt_succ_self _),
        Nat.succ_eq_add_one, Nat.add_assoc, ih cuts.tail,
        slice_append_slice text reached (Nat.le_of_lt bound)]

end

end Reformat.Document
