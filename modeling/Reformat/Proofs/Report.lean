import Reformat.Proofs.Lines
import Reformat.Tool.Output

/-!
Reports read back. Main statement: from the report of a batch, in any spelling, the batch is read,
with nothing to insert as no text.
-/

namespace Reformat.Replacements

open Text

/-! ## The children of the root -/

theorem closed_endTag : Closed ('\n' :: "</replacements>\n".toList) :=
  .plain (by decide) (.closing (.of_not_mem (by decide)))

theorem cursor_eq_ok {given : Option Nat} (fits : ∀ offset ∈ given, offset < UInt64.size)
    (spelling : Nat → Spelling) (edits : List Edit) :
    cursor
        (['\n'] ++
          (renderCursor given ++ (renderElements spelling edits ++ "</replacements>\n".toList))) =
      .ok given := by
  have cursors := cursors_lines spelling ⟨edits, given, false⟩
  have unopened := closed_endTag.count_of_isPrefix opener_cursor List.prefix_rfl
  refine (congrArg cursor (children_eq spelling ⟨edits, given, false⟩ _)).trans ?_
  rw [cursor_written ?_ ?_ unopened, cursors]
  · cases given with
    | none => rfl
    | some offset => rfl
  · rw [cursors]
    cases given with
    | none => exact Nat.zero_le 1
    | some offset => exact Nat.le_refl 1
  · rw [cursors]
    intro offset member
    exact fits offset (Option.mem_toList.mp member)

theorem edits_eq_ok {given : List Edit}
    (fits : ∀ edit ∈ given, edit.offset < UInt64.size ∧ edit.length < UInt64.size)
    (moved : Option Nat) (spelling : Nat → Spelling) :
    edits
        (['\n'] ++
          (renderCursor moved ++ (renderElements spelling given ++ "</replacements>\n".toList))) =
      .ok (given.map normalizeEdit) := by
  have given_eq := edits_lines spelling ⟨given, moved, false⟩
  have unopened := closed_endTag.count_of_isPrefix opener_replacement List.prefix_rfl
  have unread := closed_endTag.all_of_isPrefix opener_read? List.prefix_rfl
  refine (congrArg edits (children_eq spelling ⟨given, moved, false⟩ _)).trans ?_
  rw [edits_written ?_ unread, if_pos unopened, given_eq]
  rw [given_eq]
  exact fits

/-! ## The report -/

/-- The attributes of the root, of which the last says whether there were syntax errors. -/
def rootAttributes (incomplete : Bool) : Text :=
  renderAttribute false "xml:space".toList "preserve".toList ++
    renderAttribute false "incomplete_format".toList
      (if incomplete then "true".toList else "false".toList)

theorem renderRoot_append (incomplete : Bool) (body : Text) :
    renderRoot incomplete ++ body =
      '<' :: ("replacements".toList ++ (rootAttributes incomplete ++ '>' :: body)) := by
  have whole :
      renderRoot incomplete = "<replacements".toList ++ (rootAttributes incomplete ++ ['>']) := by
    unfold renderRoot rootAttributes
    simp only [List.append_assoc]
  rw [whole, List.append_assoc, List.append_assoc]
  rfl

theorem isValue_flag (incomplete : Bool) :
    isValue (if incomplete then "true".toList else "false".toList) = true := by
  cases incomplete
  · decide
  · decide

theorem attributes_rootAttributes (incomplete : Bool) :
    attributes (rootAttributes incomplete) =
      [("xml:space".toList, "preserve".toList),
        ("incomplete_format".toList, if incomplete then "true".toList else "false".toList)] := by
  have second := attributes_renderAttribute false
    (show isName "incomplete_format".toList = true by decide) (isValue_flag incomplete) []
  rw [List.append_nil] at second
  unfold rootAttributes
  rw [attributes_renderAttribute false (by decide) (by decide), second, attributes, Scan.all]

theorem greater_not_mem_rootAttributes (incomplete : Bool) :
    '>' ∉ rootAttributes incomplete := by
  unfold rootAttributes
  rw [List.mem_append, not_or]
  exact ⟨not_mem_renderAttribute false (by decide) (by decide) (by decide),
    not_mem_renderAttribute false (by decide) (isValue_flag incomplete) (by decide)⟩

theorem Root.read?_renderRoot (incomplete : Bool) (body : Text) :
    Root.read? ("<?xml version='1.0'?>\n".toList ++ (renderRoot incomplete ++ body)) =
      some ⟨incomplete, body⟩ := by
  have absent : '<' ∉ "?xml version='1.0'?>\n".toList := by decide
  have blank : (rootAttributes incomplete ++ '>' :: body).head?.any isWordChar = false := rfl
  have prolog :
      opening? "replacements".toList
          ('<' :: "?xml version='1.0'?>\n".toList ++ (renderRoot incomplete ++ body)) =
        none := rfl
  have opened :
      Scan.first (opening? "replacements".toList)
          ("<?xml version='1.0'?>\n".toList ++ (renderRoot incomplete ++ body)) =
        some (rootAttributes incomplete ++ '>' :: body) := by
    refine (Scan.first_mark_append (beginsWith_opening? _) absent prolog).trans ?_
    rw [renderRoot_append]
    exact Scan.first_of_eq_some (opening?_append blank)
  have flag :
      valueOf? "incomplete_format".toList (attributes (rootAttributes incomplete)) =
        some (if incomplete then "true".toList else "false".toList) := by
    rw [attributes_rootAttributes]
    rfl
  have tag := Tag.read?_open (greater_not_mem_rootAttributes incomplete)
    (getLast?_renderAttribute _ _ _ _) body
  unfold Root.read?
  simp only [opened, Option.bind_eq_bind, Option.bind_some, tag, flag]
  cases incomplete
  · rfl
  · rfl

/-- A batch whose numbers fit 64 bits. -/
structure Representable (batch : Batch) : Prop where
  edits : ∀ edit ∈ batch.edits, edit.offset < UInt64.size ∧ edit.length < UInt64.size
  cursor : ∀ offset ∈ batch.cursor, offset < UInt64.size

/-- From its report in any spelling a batch is read again, whatever its texts look like. -/
theorem ofOutput_render (tool : Text) (spelling : Nat → Spelling) {batch : Batch}
    (representable : Representable batch) :
    ofOutput tool (render spelling batch) = .ok (normalize batch) := by
  have text :
      render spelling batch =
        "<?xml version='1.0'?>\n".toList ++
          (renderRoot batch.incomplete ++
            (['\n'] ++
              (renderCursor batch.cursor ++
                (renderElements spelling batch.edits ++ "</replacements>\n".toList)))) := by
    unfold render renderOpen
    simp only [List.append_assoc, List.cons_append, List.nil_append]
  have read : parse (render spelling batch) = .ok (normalize batch) := by
    unfold parse
    rw [text, Root.read?_renderRoot]
    simp only [cursor_eq_ok representable.cursor, edits_eq_ok representable.edits]
    rfl
  unfold ofOutput
  rw [read]

/-- Texts that look like markup, attributes or references are read as they are. -/
theorem ofOutput_render_lookalikes :
    ofOutput "clang-format".toList
        ("<?xml version='1.0'?>\n".toList ++
          "<replacements".toList ++ " xml:space='preserve'".toList ++
            " incomplete_format='true'>\n".toList ++
          "<cursor>6</cursor>\n".toList ++
          "<replacement offset='3' length='0'>".toList ++
            "&lt;/replacement> offset='9'/>".toList ++ "</replacement>\n".toList ++
          "<replacement length=\"2\" offset='3'/>\n".toList ++
          "<replacement offset='18446744073709551615'".toList ++
            " length='0'></replacement>\n".toList ++
          "<replacement offset='7' length=\"1\">".toList ++
            "&amp;lt;&#13;&#10;&amp;amp;".toList ++ "</replacement>\n".toList ++
          "</replacements>\n".toList) =
      .ok {
        edits := [
          ⟨3, 0, some "</replacement> offset='9'/>".toList⟩,
          ⟨3, 2, none⟩,
          ⟨18446744073709551615, 0, none⟩,
          ⟨7, 1, some "&lt;\r\n&amp;".toList⟩]
        cursor := some 6
        incomplete := true } := by
  let spelling (index : Nat) : Spelling := ⟨index = 1, false, index = 1 || index = 3, index = 1⟩
  let batch : Batch := {
    edits := [
      ⟨3, 0, some "</replacement> offset='9'/>".toList⟩,
      ⟨3, 2, none⟩,
      ⟨18446744073709551615, 0, some []⟩,
      ⟨7, 1, some "&lt;\r\n&amp;".toList⟩]
    cursor := some 6
    incomplete := true }
  have representable : Representable batch := ⟨by decide, by decide⟩
  refine Eq.trans (congrArg (ofOutput "clang-format".toList) ?_)
    (ofOutput_render "clang-format".toList spelling representable)
  decide +kernel

end Reformat.Replacements
