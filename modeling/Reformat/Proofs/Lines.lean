import Reformat.Proofs.Closing
import Reformat.Proofs.Escaping
import Reformat.Proofs.Except
import Reformat.Proofs.Tags

/-!
A report line by line, each child of the root on a line of its own. Main statements: of lines that
are written in front of any text the edits are read, in order, and the cursor, if the text adds
nothing to them.
-/

namespace Reformat.Replacements

open Text

/-! ## What begins with a tag -/

theorem beginsWith_opening? (name : Text) : Scan.BeginsWith '<' (opening? name) :=
  (Scan.beginsWith_dropMark '<' name).bind _

theorem beginsWith_cursorValue? : Scan.BeginsWith '<' cursorValue? :=
  (Scan.beginsWith_dropMark '<' "cursor>".toList).bind _

theorem beginsWith_read? : Scan.BeginsWith '<' Element.read? :=
  (beginsWith_opening? "replacement".toList).bind _

theorem opening?_append {name rest : Text} (ends : rest.head?.any isWordChar = false) :
    opening? name ('<' :: (name ++ rest)) = some rest := by
  have found : Scan.dropMark ('<' :: name) ('<' :: (name ++ rest)) = some rest :=
    Scan.dropMark_append ('<' :: name) rest
  unfold opening?
  rw [found]
  simp [ends]

theorem opener_cursor : Opener (opening? "cursor".toList) :=
  ⟨beginsWith_opening? _, rfl, fun _ => rfl⟩

theorem opener_replacement : Opener (opening? "replacement".toList) :=
  ⟨beginsWith_opening? _, rfl, fun _ => rfl⟩

theorem opener_cursorValue? : Opener cursorValue? :=
  ⟨beginsWith_cursorValue?, rfl, fun _ => rfl⟩

theorem opener_read? : Opener Element.read? :=
  ⟨beginsWith_read?, rfl, fun _ => rfl⟩

/-! ## Elements -/

theorem renderElement_append (spelling : Spelling) (edit : Edit) (rest : Text) :
    ∃ behind,
      renderElement spelling edit ++ rest =
        '<' :: ("replacement".toList ++ (renderAttributes spelling edit ++ behind)) ∧
      (edit.inserted = [] ∧ behind = '/' :: '>' :: rest ∨
        behind =
          '>' :: (escape edit.inserted ++ '<' :: ("/replacement".toList ++ '>' :: rest))) := by
  unfold renderElement
  by_cases single : (edit.inserted.isEmpty && spelling.selfClosing) = true
  · have nothing : edit.inserted = [] :=
      List.isEmpty_iff.mp (Bool.and_eq_true_iff.mp single).1
    refine ⟨_, ?_, Or.inl ⟨nothing, rfl⟩⟩
    rw [if_pos single]
    simp
  · refine ⟨_, ?_, Or.inr rfl⟩
    rw [if_neg single]
    simp

theorem head?_renderAttributes (spelling : Spelling) (edit : Edit) (rest : Text) :
    (renderAttributes spelling edit ++ rest).head? = some ' ' := by
  unfold renderAttributes
  cases spelling.lengthFirst
  · rfl
  · rfl

theorem opening?_renderElement (spelling : Spelling) (edit : Edit) (behind : Text) :
    opening? "replacement".toList
        ('<' :: ("replacement".toList ++ (renderAttributes spelling edit ++ behind))) =
      some (renderAttributes spelling edit ++ behind) := by
  apply opening?_append
  rw [head?_renderAttributes]
  decide

theorem read?_renderElement (spelling : Spelling) (edit : Edit) (rest : Text) :
    Element.read? (renderElement spelling edit ++ rest) =
      some (⟨renderAttributes spelling edit, escape edit.inserted⟩, rest) := by
  have absent : '>' ∉ renderAttributes spelling edit :=
    not_mem_renderAttributes spelling edit (by decide)
  obtain ⟨behind, text, ⟨nothing, rfl⟩ | rfl⟩ := renderElement_append spelling edit rest
  · rw [text, Element.read?, opening?_renderElement]
    simp only [Option.bind_eq_bind, Option.bind_some, Tag.read?_selfClosing absent]
    rw [nothing]
    rfl
  · have last := getLast?_renderAttributes spelling edit
    have plain := less_not_mem_escape edit.inserted
    have closing :
        Scan.dropMark "</replacement".toList ('<' :: ("/replacement".toList ++ '>' :: rest)) =
          some ('>' :: rest) :=
      Scan.dropMark_append "</replacement".toList ('>' :: rest)
    have unblank : ('>' :: rest).dropWhile isBlank = '>' :: rest :=
      List.dropWhile_cons_of_neg (by decide)
    have ends : Scan.dropMark ['>'] ('>' :: rest) = some rest := Scan.dropMark_append ['>'] rest
    rw [text, Element.read?, opening?_renderElement]
    simp only [Option.bind_eq_bind, Option.bind_some, Tag.read?_open absent last,
      dropWhile_ne_append_cons plain, takeWhile_ne_append_cons plain, closing, unblank, ends]
    rfl

theorem edit_renderAttributes (spelling : Spelling) {edit : Edit}
    (offset : edit.offset < UInt64.size) (length : edit.length < UInt64.size) :
    Element.edit ⟨renderAttributes spelling edit, escape edit.inserted⟩ =
      .ok (normalizeEdit edit) := by
  obtain ⟨foundOffset, foundLength⟩ := valueOf?_renderAttributes spelling edit
  have text :
      (if (escape edit.inserted).isEmpty then none
        else some (CharRef.decode (escape edit.inserted))) =
        edit.text.filter (!·.isEmpty) := by
    unfold Edit.inserted
    cases edit.text with
    | none => rfl
    | some given =>
        rw [decode_escape]
        by_cases nothing : given = []
        · rw [Option.getD_some, nothing]
          rfl
        · have written : escape given ≠ [] := mt escape_eq_nil_iff.mp nothing
          have kept : (some given).filter (!·.isEmpty) = some given :=
            Option.filter_some_pos (by simp [nothing])
          rw [kept, Option.getD_some, List.isEmpty_eq_false_iff.mpr written]
          rfl
  unfold Element.edit
  simp only [number_eq_ok offset foundOffset, number_eq_ok length foundLength, text]
  rfl

theorem opening?_cursor_renderElement (spelling : Spelling) (edit : Edit) (rest : Text) :
    opening? "cursor".toList (renderElement spelling edit ++ rest) = none := by
  obtain ⟨behind, text, -⟩ := renderElement_append spelling edit rest
  rw [text]
  rfl

theorem opening?_replacement_renderElement (spelling : Spelling) (edit : Edit) (rest : Text) :
    (opening? "replacement".toList (renderElement spelling edit ++ rest)).isSome = true := by
  rcases renderElement_append spelling edit rest with ⟨behind, text, -⟩
  rw [text, opening?_renderElement]
  rfl

theorem cursorValue?_renderElement (spelling : Spelling) (edit : Edit) (rest : Text) :
    cursorValue? (renderElement spelling edit ++ rest) = none := by
  rcases renderElement_append spelling edit rest with ⟨behind, text, -⟩
  rw [text]
  rfl

/-! ## A report line by line -/

/-- A child of the root, on a line of its own. -/
inductive Line where
  | cursor (offset : Nat)
  | replacement (spelling : Spelling) (edit : Edit)

namespace Line

def name : Line → Text
  | cursor _ => "cursor".toList
  | replacement _ _ => "replacement".toList

def element : Line → Text
  | cursor offset => "<cursor>".toList ++ (Decimal.write offset ++ "</cursor>".toList)
  | replacement spelling edit => renderElement spelling edit

/-- The line, with the line break in front of it. -/
def text (line : Line) : Text :=
  '\n' :: line.element

def cursor? : Line → Option Nat
  | cursor offset => some offset
  | replacement _ _ => none

def edit? : Line → Option Edit
  | cursor _ => none
  | replacement _ edit => some edit

/-- What is read of the line as an element of an edit. -/
def read? : Line → Option Element
  | cursor _ => none
  | replacement spelling edit => some ⟨renderAttributes spelling edit, escape edit.inserted⟩

theorem exists_closed (line : Line) :
    ∃ behind, line.element = '<' :: behind ∧ Closed behind := by
  cases line with
  | cursor offset =>
      refine ⟨"cursor>".toList ++ (Decimal.write offset ++ "</cursor>".toList), rfl, ?_⟩
      have number : '<' ∉ Decimal.write offset :=
        not_mem_of_isValue (isValue_write offset) (by decide)
      refine (Closed.of_not_mem (by decide)).append ((Closed.of_not_mem number).append ?_)
      exact .closing (.of_not_mem (by decide))
  | replacement spelling edit =>
      have attributes : '<' ∉ renderAttributes spelling edit :=
        not_mem_renderAttributes spelling edit (by decide)
      have front := (Closed.of_not_mem (show '<' ∉ "replacement".toList by decide)).append
        (.of_not_mem attributes)
      rcases renderElement_append spelling edit [] with ⟨behind, text, ⟨-, rfl⟩ | rfl⟩
      · rw [List.append_nil, ← List.append_assoc] at text
        exact ⟨_, text, front.append (.of_not_mem (by decide))⟩
      · rw [List.append_nil, ← List.append_assoc] at text
        have content := Closed.of_not_mem (less_not_mem_escape edit.inserted)
        refine ⟨_, text, front.append (.plain (by decide) (content.append ?_))⟩
        exact .closing (.of_not_mem (by decide))

end Line

def written (lines : List Line) : Text :=
  lines.flatMap Line.text

theorem written_cons_append (line : Line) (others : List Line) (part : Text) :
    written (line :: others) ++ part = '\n' :: (line.element ++ (written others ++ part)) := by
  simp [written, Line.text]

/-- The lines of the report of a batch. -/
def lines (spelling : Nat → Spelling) (batch : Batch) : List Line :=
  batch.cursor.toList.map Line.cursor ++
    batch.edits.mapIdx fun index edit => Line.replacement (spelling index) edit

theorem written_renderElements (spelling : Nat → Spelling) (edits : List Edit) (rest : Text) :
    '\n' :: (renderElements spelling edits ++ rest) =
      written (edits.mapIdx fun index edit => Line.replacement (spelling index) edit) ++
        '\n' :: rest := by
  induction edits generalizing spelling with
  | nil => rfl
  | cons edit others inductionHypothesis =>
      have later := inductionHypothesis fun index => spelling (index + 1)
      rw [List.mapIdx_cons, written_cons_append, ← later, renderElements, List.append_assoc]
      rfl

theorem renderCursor_append_eq (offset : Nat) (rest : Text) :
    renderCursor (some offset) ++ rest = (Line.cursor offset).element ++ '\n' :: rest := by
  unfold renderCursor Line.element
  simp only [List.append_assoc]
  rfl

/-- The children of the root in lines, each with the line break in front of it. -/
theorem children_eq (spelling : Nat → Spelling) (batch : Batch) (rest : Text) :
    '\n' :: (renderCursor batch.cursor ++ (renderElements spelling batch.edits ++ rest)) =
      written (lines spelling batch) ++ '\n' :: rest := by
  have replacements := written_renderElements spelling batch.edits rest
  unfold lines
  cases batch.cursor with
  | none => exact replacements
  | some offset =>
      rw [renderCursor_append_eq, replacements]
      exact (written_cons_append _ _ _).symm

theorem filterMap_replacements (spelling : Nat → Spelling) (edits : List Edit) :
    let replacements := edits.mapIdx fun index edit => Line.replacement (spelling index) edit
    replacements.filterMap Line.cursor? = [] ∧ replacements.filterMap Line.edit? = edits := by
  induction edits generalizing spelling with
  | nil => exact ⟨rfl, rfl⟩
  | cons edit others inductionHypothesis =>
      rcases inductionHypothesis fun index => spelling (index + 1) with ⟨cursors, edits⟩
      simp only [List.mapIdx_cons]
      exact ⟨cursors, congrArg (List.cons edit) edits⟩

theorem cursors_lines (spelling : Nat → Spelling) (batch : Batch) :
    (lines spelling batch).filterMap Line.cursor? = batch.cursor.toList := by
  have cursors := (filterMap_replacements spelling batch.edits).1
  unfold lines
  rw [List.filterMap_append, cursors, List.append_nil]
  cases batch.cursor with
  | none => rfl
  | some offset => rfl

theorem edits_lines (spelling : Nat → Spelling) (batch : Batch) :
    (lines spelling batch).filterMap Line.edit? = batch.edits := by
  have edits := (filterMap_replacements spelling batch.edits).2
  unfold lines
  rw [List.filterMap_append, edits]
  cases batch.cursor with
  | none => rfl
  | some offset => rfl

/-! ## Lines read back -/

section

variable {lines : List Line} {part : Text}

/-- A pattern that finds just the elements of a kind is found that often. -/
theorem count_written {α β : Type} {pattern : Text → Option α} {kind : Line → Option β}
    (opener : Opener pattern)
    (finds : ∀ line rest, (pattern (line.element ++ rest)).isSome = (kind line).isSome)
    (lines : List Line) (part : Text) :
    Scan.count pattern (written lines ++ part) =
      (lines.filterMap kind).length + Scan.count pattern part := by
  induction lines with
  | nil => simp [written]
  | cons line others inductionHypothesis =>
      -- nothing is found in the line but at its front, since what follows there are end tags
      rcases line.exists_closed with ⟨behind, element, closed⟩
      have here := finds line (written others ++ part)
      rw [written_cons_append, Scan.count, opener.begins.cons _ (by decide)]
      rw [element, List.cons_append] at here ⊢
      rw [Scan.count, here, closed.count_append opener, inductionHypothesis]
      cases found : kind line with
      | none => simp [found]
      | some value =>
          simp [found]
          omega

theorem count_cursor_written (lines : List Line) (part : Text) :
    Scan.count (opening? "cursor".toList) (written lines ++ part) =
      (lines.filterMap Line.cursor?).length +
        Scan.count (opening? "cursor".toList) part := by
  refine count_written opener_cursor ?_ lines part
  intro line rest
  cases line with
  | cursor offset => rfl
  | replacement spelling edit =>
      exact congrArg Option.isSome (opening?_cursor_renderElement spelling edit rest)

theorem count_replacement_written (lines : List Line) (part : Text) :
    Scan.count (opening? "replacement".toList) (written lines ++ part) =
      (lines.filterMap Line.edit?).length +
        Scan.count (opening? "replacement".toList) part := by
  refine count_written opener_replacement ?_ lines part
  intro line rest
  cases line with
  | cursor offset => rfl
  | replacement spelling edit => exact opening?_replacement_renderElement spelling edit rest

theorem trim_write (n : Nat) : Text.trim (Decimal.write n) = Decimal.write n := by
  apply trim_eq_self
  intro c member
  have digit := Decimal.isDigit_of_mem_write member
  simp only [Char.isDigit, Bool.and_eq_true, decide_eq_true_eq] at digit
  obtain ⟨atLeast, atMost⟩ := digit
  have low : 48 ≤ c.toNat := atLeast
  have high : c.toNat ≤ 57 := atMost
  simp only [isBlank, Bool.or_eq_false_iff, Bool.and_eq_false_iff, decide_eq_false_iff_not,
    beq_eq_false_iff_ne]
  omega

theorem cursorValue?_element (offset : Nat) (rest : Text) :
    cursorValue? ((Line.cursor offset).element ++ rest) = some (Decimal.write offset) := by
  have absent : '<' ∉ Decimal.write offset :=
    not_mem_of_isValue (isValue_write offset) (by decide)
  have opened :
      Scan.dropMark "<cursor>".toList ((Line.cursor offset).element ++ rest) =
        some (Decimal.write offset ++ '<' :: ("/cursor>".toList ++ rest)) := by
    unfold Line.element
    simp only [List.append_assoc]
    exact Scan.dropMark_append "<cursor>".toList _
  have closed :
      Scan.dropMark "</cursor>".toList ('<' :: ("/cursor>".toList ++ rest)) = some rest :=
    Scan.dropMark_append "</cursor>".toList rest
  unfold cursorValue?
  simp only [opened, Option.bind_eq_bind, Option.bind_some, dropWhile_ne_append_cons absent,
    takeWhile_ne_append_cons absent, closed, trim_write]
  rfl

theorem first_written (lines : List Line) (part : Text) :
    Scan.first cursorValue? (written lines ++ part) =
      ((lines.filterMap Line.cursor?).head?.map Decimal.write).or
        (Scan.first cursorValue? part) := by
  induction lines with
  | nil => rfl
  | cons line others inductionHypothesis =>
      have newline : '<' ∉ ['\n'] := by decide
      have passed := Scan.first_append beginsWith_cursorValue? newline
        (line.element ++ (written others ++ part))
      rw [List.singleton_append] at passed
      rw [written_cons_append, passed]
      cases line with
      | cursor offset => exact Scan.first_of_eq_some (cursorValue?_element offset _)
      | replacement spelling edit =>
          rcases (Line.replacement spelling edit).exists_closed with ⟨behind, element, closed⟩
          have nothing : cursorValue? ('<' :: behind ++ (written others ++ part)) = none := by
            rw [← element]
            exact cursorValue?_renderElement spelling edit _
          rw [element]
          exact (closed.first_tag_append opener_cursorValue? nothing).trans inductionHypothesis

theorem all_written (lines : List Line) (part : Text) :
    Scan.all Element.read? (written lines ++ part) =
      lines.filterMap Line.read? ++ Scan.all Element.read? part := by
  induction lines with
  | nil => rfl
  | cons line others inductionHypothesis =>
      have newline : '<' ∉ ['\n'] := by decide
      have passed := Scan.all_append beginsWith_read? newline
        (line.element ++ (written others ++ part))
      rw [List.singleton_append] at passed
      rcases line.exists_closed with ⟨behind, element, closed⟩
      rw [written_cons_append, passed]
      cases line with
      | cursor offset =>
          have nothing : Element.read? ('<' :: behind ++ (written others ++ part)) = none := by
            rw [← element]
            rfl
          rw [element]
          exact (closed.all_tag_append opener_read? nothing).trans inductionHypothesis
      | replacement spelling edit =>
          have shorter (rest : Text) :
              rest.length < (renderElement spelling edit ++ rest).length := by
            have nonempty : renderElement spelling edit = '<' :: behind := element
            rw [nonempty, List.length_append, List.length_cons]
            omega
          have here := Scan.all_of_eq_some
            (read?_renderElement spelling edit (written others ++ part)) (shorter _)
          exact here.trans (congrArg (List.cons _) inductionHypothesis)

theorem mapM_edit_read?
    (fits : ∀ edit ∈ lines.filterMap Line.edit?,
      edit.offset < UInt64.size ∧ edit.length < UInt64.size) :
    (lines.filterMap Line.read?).mapM Element.edit =
      .ok ((lines.filterMap Line.edit?).map normalizeEdit) := by
  induction lines with
  | nil => rfl
  | cons line others inductionHypothesis =>
      cases line with
      | cursor offset => exact inductionHypothesis fits
      | replacement spelling edit =>
          rcases List.forall_mem_cons.mp fits with ⟨⟨offset, length⟩, later⟩
          have here : (Line.replacement spelling edit :: others).filterMap Line.read? =
              ⟨renderAttributes spelling edit, escape edit.inserted⟩ ::
                others.filterMap Line.read? := rfl
          rw [here, List.mapM_cons, edit_renderAttributes spelling offset length,
            inductionHypothesis later]
          rfl

theorem cursor_written (single : (lines.filterMap Line.cursor?).length ≤ 1)
    (fits : ∀ offset ∈ lines.filterMap Line.cursor?, offset < UInt64.size)
    (unopened : Scan.count (opening? "cursor".toList) part = 0) :
    cursor (written lines ++ part) = .ok (lines.filterMap Line.cursor?).head? := by
  have counted := count_cursor_written lines part
  have found := first_written lines part
  rw [unopened] at counted
  unfold cursor
  rw [counted, found]
  cases placed : lines.filterMap Line.cursor? with
  | nil => rfl
  | cons offset others =>
      rw [placed] at single fits
      have alone : others = [] := by
        rw [← List.length_eq_zero_iff]
        exact Nat.le_zero.mp (Nat.le_of_succ_le_succ single)
      have read := Decimal.read?_write (fits offset List.mem_cons_self)
      rw [alone]
      simp only [List.length_singleton, List.head?_cons, Option.map_some, Option.some_or, read]
      rfl

theorem edits_written
    (fits : ∀ edit ∈ lines.filterMap Line.edit?,
      edit.offset < UInt64.size ∧ edit.length < UInt64.size)
    (unread : Scan.all Element.read? part = []) :
    edits (written lines ++ part) =
      if Scan.count (opening? "replacement".toList) part = 0 then
        .ok ((lines.filterMap Line.edit?).map normalizeEdit)
      else
        .error .openReplacement := by
  unfold edits
  rw [all_written, unread, List.append_nil, mapM_edit_read? fits, ok_bind,
    count_replacement_written, List.length_map]
  by_cases unopened : Scan.count (opening? "replacement".toList) part = 0
  · rw [if_pos unopened, if_pos (by omega)]
    rfl
  · rw [if_neg unopened, if_neg (by omega)]
    rfl

end

end Reformat.Replacements
