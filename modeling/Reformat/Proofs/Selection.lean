import Reformat.Proofs.Consultation
import Reformat.Proofs.Translation

/-!
Formatting a region. Main statement: the formatter is asked for the bytes of the selected characters
and no others, in whichever order the two ends are given, and a selection of all characters is
formatted as the whole document is.
-/

namespace Reformat

namespace Document

variable {document : Document} {start stop : Nat}

/-- The characters from a position up to another one, as far as there are any. -/
def selected (document : Document) (start stop : Nat) : Text :=
  (document.chars.take stop).drop start

theorem take_append_selected (order : start ≤ stop) :
    document.chars.take start ++ document.selected start stop = document.chars.take stop := by
  have whole := List.take_append_drop start (document.chars.take stop)
  rwa [List.take_take, Nat.min_eq_left order] at whole

theorem byteOfChar_add_size_selected (order : start ≤ stop) :
    document.byteOfChar start + Utf8.size (document.selected start stop) =
      document.byteOfChar stop := by
  unfold byteOfChar
  rw [← take_append_selected order, Utf8.size_append]

/-- Characters cut out by their positions are the bytes cut out by the offsets of these. -/
theorem bytes_selected (order : start ≤ stop) :
    (document.bytes.drop (document.byteOfChar start)).take
        (document.byteOfChar stop - document.byteOfChar start) =
      Utf8.encode (document.selected start stop) := by
  have size :
      document.byteOfChar start + Utf8.size (document.selected start stop) =
        document.byteOfChar stop :=
    byteOfChar_add_size_selected order
  have chars :
      document.chars =
        document.chars.take start ++ (document.selected start stop ++ document.chars.drop stop) := by
    rw [← List.append_assoc, take_append_selected order, List.take_append_drop]
  have bytes :
      document.bytes =
        Utf8.encode (document.chars.take start) ++
          (Utf8.encode (document.selected start stop) ++
            Utf8.encode (document.chars.drop stop)) := by
    rw [← Utf8.encode_append, ← Utf8.encode_append, ← chars]
    rfl
  have front : (Utf8.encode (document.chars.take start)).length = document.byteOfChar start :=
    Utf8.length_encode _
  have middle :
      (Utf8.encode (document.selected start stop)).length =
        document.byteOfChar stop - document.byteOfChar start := by
    rw [Utf8.length_encode]
    omega
  rw [bytes, List.drop_left' front, List.take_left' middle]

theorem region_comm (document : Document) (start stop : Nat) :
    document.region stop start = document.region start stop := by
  unfold region
  rw [Nat.min_comm, Nat.max_comm]

theorem region_of_length_le (all : document.length ≤ stop) :
    document.region 0 stop = .bytes 0 document.size := by
  unfold region
  rw [Nat.zero_min, Nat.zero_max, byteOfChar_of_length_le all]
  rfl

section

variable {m : Type → Type} [Monad m]

theorem formatRegion_comm
    (formatter : Formatter m) (document : Document) (start stop cursor : Nat) (style : Style) :
    document.formatRegion formatter stop start cursor style =
      document.formatRegion formatter start stop cursor style := by
  unfold formatRegion
  rw [region_comm]

theorem formatRegion_of_length_le
    (formatter : Formatter m) (cursor : Nat) (style : Style) (all : document.length ≤ stop) :
    document.formatRegion formatter 0 stop cursor style =
      document.formatBuffer formatter cursor style := by
  unfold formatRegion formatBuffer
  rw [region_of_length_le all]

end

end Document

theorem asked_carryOut_region
    (helpers : Helpers) (desk : Desk) (start stop cursor : Nat) (style : Style) :
    (((Operation.region start stop).carryOut helpers cursor style).on desk).2.asked =
      desk.asked ++ [desk.formatting cursor style (desk.document.region start stop)] := by
  rcases exists_ends helpers desk cursor style (.region start stop) with ⟨result, left, ends⟩
  rw [ends.execution]
  cases ends with
  | region ends => exact ends.asked_eq

/-- A region is formatted by one question, and its span is that of the selected characters: it lies
in the document, parts no character, and is as long as they are. The two ends of a region may be
swapped, and a region of all characters is the whole document, as far as anyone can tell. -/
theorem region_asks_for_selected
    (helpers : Helpers) (desk : Desk) (start stop cursor : Nat) (style : Style) :
    let document := desk.document
    let ended (operation : Operation) := (operation.carryOut helpers cursor style).on desk
    (∃ offset length,
      (ended (.region start stop)).2.asked =
          desk.asked ++
            [.formatting document.bytes ⟨style, .bytes offset length, desk.offset cursor⟩] ∧
        offset = document.byteOfChar (min start stop) ∧
        offset + length = document.byteOfChar (max start stop) ∧
        offset + length ≤ document.size ∧
        IsBoundary document.chars offset ∧ IsBoundary document.chars (offset + length) ∧
        (document.bytes.drop offset).take length =
          Utf8.encode (document.selected (min start stop) (max start stop))) ∧
      ended (.region stop start) = ended (.region start stop) ∧
      ∀ last, document.length ≤ last → ended (.region 0 last) = ended .buffer := by
  intro document ended
  have order : min start stop ≤ max start stop :=
    Nat.le_trans (Nat.min_le_left start stop) (Nat.le_max_left start stop)
  have bound : document.byteOfChar (min start stop) ≤ document.byteOfChar (max start stop) :=
    document.byteOfChar_monotone order
  have reach :
      document.byteOfChar (min start stop) +
          (document.byteOfChar (max start stop) - document.byteOfChar (min start stop)) =
        document.byteOfChar (max start stop) :=
    Nat.add_sub_cancel' bound
  refine ⟨⟨_, _, asked_carryOut_region helpers desk start stop cursor style, rfl, reach, ?_⟩,
    ?_, ?_⟩
  · rw [reach]
    exact ⟨document.byteOfChar_le_size _, .size_take _ _, .size_take _ _,
      Document.bytes_selected order⟩
  · change (Work.placing (document.formatRegion helpers.formatter stop start cursor style)).on _ = _
    rw [Document.formatRegion_comm]
    rfl
  · intro last all
    change (Work.placing (document.formatRegion helpers.formatter 0 last cursor style)).on _ = _
    rw [Document.formatRegion_of_length_le _ _ _ all]
    rfl

/-- A region given from its end to its start, of characters of two and three bytes, and one that
reaches past the end. -/
theorem region_asks_for_selected_backwards :
    let document := Document.ofHostText ['a', 'é', '€', '\r', '\n', '😀']
    let desk : Desk := ⟨document, []⟩
    let style : Style := ⟨none, none, none⟩
    let helpers : Helpers :=
      ⟨fun _ => .ok [], fun _ => .ok [], fun _ => .ok ⟨[⟨1, 5, some ['x']⟩], none, false⟩⟩
    let ended (operation : Operation) := (operation.carryOut helpers 4 style).on desk
    document.selected 1 3 = ['é', '€'] ∧
      (ended (.region 3 1)).1 = .ok (.formatted ⟨3, 1, false⟩) ∧
      (∃ offset length,
        (ended (.region 3 1)).2.asked =
            [.formatting document.bytes ⟨style, .bytes offset length, 7⟩] ∧
          offset = 1 ∧ offset + length = 6 ∧ offset + length ≤ 11 ∧
          (document.bytes.drop offset).take length = Utf8.encode ['é', '€']) ∧
      ended (.region 1 3) = ended (.region 3 1) ∧
      document.length ≤ 9 ∧ ended (.region 0 9) = ended .buffer := by
  intro document desk style helpers ended
  have selected : document.selected 1 3 = ['é', '€'] := by decide +kernel
  have formatted : (ended (.region 3 1)).1 = .ok (.formatted ⟨3, 1, false⟩) := by decide +kernel
  have first : document.byteOfChar 1 = 1 := by decide +kernel
  have last : document.byteOfChar 3 = 6 := by decide +kernel
  have size : document.size = 11 := by decide +kernel
  have cursor : desk.offset 4 = 7 := by decide +kernel
  have all : document.length ≤ 9 := by decide +kernel
  rcases region_asks_for_selected helpers desk 3 1 4 style with
    ⟨⟨offset, length, asked, start, stop, inside, -, -, bytes⟩, swapped, whole⟩
  refine ⟨selected, formatted, ⟨offset, length, ?_, start.trans first, stop.trans last, ?_, ?_⟩,
    swapped, all, whole 9 all⟩
  · rw [cursor] at asked
    exact asked
  · exact Nat.le_trans inside (Nat.le_of_eq size)
  · exact bytes.trans (congrArg Utf8.encode selected)

end Reformat
