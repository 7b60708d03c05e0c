import Mathlib.Data.List.Forall2
import Mathlib.Data.List.Infix
import Reformat.Text.Scan

/-!
The places of a text at which something opens, and what a scan finds at them. Main statement: a scan
from left to right finds as many things as there are places just where at each of them something is
found inside of which nothing else opens.
-/

namespace Reformat.Text.Scan

variable {α : Type} {opens : Text → Prop} [DecidablePred opens]

/-- What is left of a text from each place on at which something opens, from the first one on. -/
def places (opens : Text → Prop) [DecidablePred opens] (text : Text) : List Text :=
  text.tails.filter opens

theorem places_nil (closed : ¬ opens []) : places opens [] = [] := by
  simp [places, closed]

theorem places_cons_of_opens {c : Char} {rest : Text} (here : opens (c :: rest)) :
    places opens (c :: rest) = (c :: rest) :: places opens rest := by
  simp [places, here]

theorem places_cons_of_not_opens {c : Char} {rest : Text} (closed : ¬ opens (c :: rest)) :
    places opens (c :: rest) = places opens rest := by
  simp [places, closed]

/-- The places of the end of a text come last among those of the text. -/
theorem places_isSuffix {after text : Text} (suffix : after <:+ text) :
    places opens after <:+ places opens text := by
  obtain ⟨taken, rfl⟩ := suffix
  induction taken with
  | nil => exact List.suffix_refl _
  | cons head tail ih =>
      rw [List.cons_append]
      by_cases here : opens (head :: (tail ++ after))
      · rw [places_cons_of_opens here]
        exact ih.trans (List.suffix_cons _ _)
      · rw [places_cons_of_not_opens here]
        exact ih

/-! ## What is found at the places -/

theorem count_eq_length_places {pattern : Text → Option α}
    (finds : ∀ text, (pattern text).isSome = true ↔ opens text) (text : Text) :
    count pattern text = (places opens text).length := by
  induction text with
  | nil =>
      by_cases here : opens []
      · simp [count, places, finds, here]
      · simp [count, places, finds, here]
  | cons c rest ih =>
      rw [count, ih]
      by_cases here : opens (c :: rest)
      · rw [places_cons_of_opens here, if_pos ((finds _).mpr here), List.length_cons, Nat.add_comm]
      · rw [places_cons_of_not_opens here, if_neg (mt (finds _).mp here), Nat.zero_add]

theorem first_eq_findSome?_places {pattern : Text → Option α}
    (finds : ∀ text found, pattern text = some found → opens text) (text : Text) :
    first pattern text = (places opens text).findSome? pattern := by
  have nothing {text : Text} (closed : ¬ opens text) : pattern text = none :=
    Option.eq_none_iff_forall_ne_some.mpr fun found here => closed (finds text found here)
  induction text with
  | nil =>
      by_cases here : opens []
      · simp [first, places, here]
      · simp [first, places, here, nothing here]
  | cons c rest ih =>
      rw [first, ih]
      by_cases here : opens (c :: rest)
      · rw [places_cons_of_opens here, List.findSome?_cons]
        cases pattern (c :: rest) with
        | none => rfl
        | some found => rfl
      · rw [places_cons_of_not_opens here, nothing here]

/-! ## All that is found -/

/-- A pattern that finds something only where it opens, and takes some of the text for it. -/
structure FindsAt (opens : Text → Prop) (pattern : Text → Option (α × Text)) : Prop where
  opens : ∀ {text after : Text} {found : α}, pattern text = some (found, after) → opens text
  isSuffix : ∀ {text after : Text} {found : α}, pattern text = some (found, after) → after <:+ text
  shorter : ∀ {text after : Text} {found : α},
    pattern text = some (found, after) → after.length < text.length

/-- At a place something is found, and nothing else opens in what is taken for it. -/
def FindsAlone (opens : Text → Prop) [DecidablePred opens] (pattern : Text → Option (α × Text))
    (place : Text) (found : α) : Prop :=
  ∃ after, pattern place = some (found, after) ∧
    places opens place = place :: places opens after

variable {pattern : Text → Option (α × Text)}

theorem FindsAt.places_eq_cons (finds : FindsAt opens pattern) {text after : Text} {found : α}
    (here : pattern text = some (found, after)) :
    ∃ between, places opens text = text :: (between ++ places opens after) := by
  cases text with
  | nil => exact absurd (finds.shorter here) (Nat.not_lt_zero _)
  | cons c rest =>
      have suffix : after <:+ rest := by
        rcases List.suffix_cons_iff.mp (finds.isSuffix here) with rfl | inside
        · exact absurd (finds.shorter here) (Nat.lt_irrefl _)
        · exact inside
      have later : places opens after <:+ places opens rest := places_isSuffix suffix
      obtain ⟨between, split⟩ := later
      exact ⟨between, by rw [places_cons_of_opens (finds.opens here), split]⟩

theorem FindsAt.length_all_le (finds : FindsAt opens pattern) (text : Text) :
    (all pattern text).length ≤ (places opens text).length := by
  fun_induction all pattern text with
  | case1 => exact Nat.zero_le _
  | case2 c rest found after here shorter ih =>
      obtain ⟨between, split⟩ := finds.places_eq_cons here
      rw [split, List.length_cons, List.length_cons, List.length_append]
      omega
  | case3 c rest found after here stays _ => exact absurd (finds.shorter here) stays
  | case4 c rest _ ih => exact ih.trans (places_isSuffix (List.suffix_cons c rest)).length_le

/-- A scan passes over no place just where it finds something alone at each of them. The numbers
can agree in no other way, since whatever is found begins at a place of its own. -/
theorem FindsAt.forall₂_places_iff (finds : FindsAt opens pattern) (closed : ¬ opens [])
    (text : Text) (founds : List α) :
    List.Forall₂ (FindsAlone opens pattern) (places opens text) founds ↔
      all pattern text = founds ∧ founds.length = (places opens text).length := by
  fun_induction all pattern text generalizing founds with
  | case1 =>
      rw [places_nil closed, List.forall₂_nil_left_iff]
      constructor
      · rintro rfl
        exact ⟨rfl, rfl⟩
      · rintro ⟨rfl, -⟩
        rfl
  | case2 c rest found after here shorter ih =>
      obtain ⟨between, split⟩ := finds.places_eq_cons here
      have bound := finds.length_all_le after
      constructor
      · intro alone
        rw [split] at alone
        obtain ⟨first, others, ⟨behind, same, lone⟩, later, rfl⟩ :=
          List.forall₂_cons_left_iff.mp alone
        obtain ⟨rfl, rfl⟩ : found = first ∧ after = behind := by
          simpa using here.symm.trans same
        have rest_eq : between ++ places opens after = places opens after :=
          List.cons_injective (split.symm.trans lone)
        rw [rest_eq] at later split
        obtain ⟨rfl, count⟩ := (ih others).mp later
        refine ⟨rfl, ?_⟩
        rw [split, List.length_cons, List.length_cons, count]
      · rintro ⟨rfl, count⟩
        rw [split, List.length_cons, List.length_cons, List.length_append] at count
        have nothing : between = [] := List.eq_nil_of_length_eq_zero (by omega)
        rw [nothing, List.nil_append] at split
        rw [split]
        refine List.Forall₂.cons ⟨after, here, split⟩ ((ih _).mpr ⟨rfl, ?_⟩)
        rw [nothing, List.length_nil] at count
        omega
  | case3 c rest found after here stays _ => exact absurd (finds.shorter here) stays
  | case4 c rest nothing ih =>
      by_cases here : opens (c :: rest)
      · -- the place is passed over, and then there is one more than can be found
        have bound := finds.length_all_le rest
        rw [places_cons_of_opens here]
        constructor
        · intro alone
          obtain ⟨first, others, ⟨behind, same, -⟩, -⟩ := List.forall₂_cons_left_iff.mp alone
          rw [nothing] at same
          exact absurd same (by simp)
        · rintro ⟨rfl, count⟩
          rw [List.length_cons] at count
          omega
      · rw [places_cons_of_not_opens here]
        exact ih founds

end Reformat.Text.Scan
