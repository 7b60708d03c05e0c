import Reformat.Proofs.Recognition

/-!
Reports that end too early. Main statement: of a report that is cut off before its end tag just
that much is read as stands in front of the cut, unless the cut goes through the start tag of the
root or through an element behind the name in its tag.
-/

namespace Reformat.Replacements

open Text

/-! ## What is read stays read -/

section

variable {text after more : Text}

theorem IsTag.append {behind : Text} {tag : Tag} (isTag : IsTag behind tag) (more : Text) :
    IsTag (behind ++ more) ⟨tag.inside, tag.selfClosing, tag.rest ++ more⟩ := by
  cases isTag with
  | selfClosing absent =>
      rw [List.append_assoc]
      exact .selfClosing absent
  | plain absent last =>
      rw [List.append_assoc]
      exact .plain absent last

theorem IsTag.ne_nil {behind : Text} {tag : Tag} (isTag : IsTag behind tag) : behind ≠ [] := by
  cases isTag with
  | selfClosing absent => simp
  | plain absent last => simp

theorem IsElement.append {place : Text} {element : Element}
    (isElement : IsElement place element after) (more : Text) :
    IsElement (place ++ more) element (after ++ more) := by
  cases isElement with
  | selfClosing isTag => exact .selfClosing (isTag.append more)
  | filled isTag plain blank =>
      have extended := isTag.append more
      simp only [List.append_assoc, List.cons_append] at extended
      exact .filled extended plain blank

/-- An element that is read at the front of a text is read there whatever follows. -/
theorem read?_append {element : Element} (read : Element.read? text = some (element, after))
    (more : Text) : Element.read? (text ++ more) = some (element, after ++ more) := by
  rcases Element.read?_eq_some_iff.mp read with ⟨⟨behind, rfl, ends⟩, isElement⟩
  refine Element.read?_eq_some_iff.mpr ⟨⟨behind ++ more, rfl, ?_⟩, isElement.append more⟩
  have nonempty : behind ≠ [] := by
    cases isElement with
    | selfClosing isTag => exact isTag.ne_nil
    | filled isTag plain blank => exact isTag.ne_nil
  rw [List.head?_append_of_ne_nil _ nonempty]
  exact ends

end

/-! ## Lines cut off -/

namespace Line

/-- The line up to the name in the tag. -/
def opened (line : Line) : Text :=
  '\n' :: '<' :: line.name

/-- What is complained of where the line is cut off behind the name in its tag. -/
def flaw : Line → Malformation
  | cursor _ => .openCursor
  | replacement _ _ => .openReplacement

/-- The name of the element stands in its tag and ends there. -/
theorem exists_name_append (line : Line) :
    ∃ rest, line.element = '<' :: (line.name ++ rest) ∧ rest.head?.any isWordChar = false := by
  cases line with
  | cursor offset => exact ⟨'>' :: (Decimal.write offset ++ "</cursor>".toList), rfl, rfl⟩
  | replacement spelling edit =>
      rcases renderElement_append spelling edit [] with ⟨behind, text, -⟩
      rw [List.append_nil] at text
      refine ⟨_, text, ?_⟩
      rw [head?_renderAttributes]
      decide

end Line

/-- What is left of a line that is cut off behind the name in its tag. -/
structure Line.Breaks (line : Line) (part : Text) : Prop where
  opened : line.opened <+: part
  isPrefix : part <+: line.text
  proper : part ≠ line.text

namespace Line.Breaks

variable {line : Line} {part : Text}

theorem exists_closed (breaks : line.Breaks part) :
    ∃ behind text, part = '\n' :: '<' :: behind ∧ behind <+: text ∧ Closed text := by
  rcases line.exists_closed with ⟨text, element, closed⟩
  rcases breaks.opened with ⟨rest, rfl⟩
  refine ⟨line.name ++ rest, text, rfl, ?_, closed⟩
  have isPrefix := breaks.isPrefix
  rw [Line.text, element] at isPrefix
  exact (List.cons_prefix_cons.mp (List.cons_prefix_cons.mp isPrefix).2).2

theorem count_eq {α : Type} {pattern : Text → Option α} (breaks : line.Breaks part)
    (opener : Opener pattern) :
    Scan.count pattern part = if (pattern part.tail).isSome then 1 else 0 := by
  rcases breaks.exists_closed with ⟨behind, text, rfl, isPrefix, closed⟩
  rw [Scan.count, opener.begins.cons _ (by decide), Scan.count,
    closed.count_of_isPrefix opener isPrefix]
  exact Nat.zero_add _

theorem first_eq_none {α : Type} {pattern : Text → Option α} (breaks : line.Breaks part)
    (opener : Opener pattern) (unread : pattern part.tail = none) :
    Scan.first pattern part = none := by
  rcases breaks.exists_closed with ⟨behind, text, rfl, isPrefix, closed⟩
  have nothing : pattern ('<' :: behind) = none := unread
  have passed := closed.first_of_isPrefix opener isPrefix
  rw [Scan.first, opener.begins.cons _ (by decide)]
  change Scan.first pattern ('<' :: behind) = none
  rw [Scan.first, nothing]
  exact passed

theorem all_eq_nil {α : Type} {pattern : Text → Option (α × Text)} (breaks : line.Breaks part)
    (opener : Opener pattern) (unread : pattern part.tail = none) :
    Scan.all pattern part = [] := by
  rcases breaks.exists_closed with ⟨behind, text, rfl, isPrefix, closed⟩
  have nothing : pattern ('<' :: behind) = none := unread
  have passed := closed.all_of_isPrefix opener isPrefix
  rw [Scan.all, opener.begins.cons _ (by decide)]
  change Scan.all pattern ('<' :: behind) = []
  rw [Scan.all, nothing]
  exact passed

/-- What is left of the line goes on behind the name, if it does, with what ends the name. -/
theorem tail_eq (breaks : line.Breaks part) :
    ∃ behind, part.tail = '<' :: (line.name ++ behind) ∧ behind.head?.any isWordChar = false := by
  rcases line.exists_name_append with ⟨rest, element, ends⟩
  rcases breaks.opened with ⟨behind, rfl⟩
  refine ⟨behind, rfl, ?_⟩
  have isPrefix : line.opened ++ behind <+: line.opened ++ rest := by
    have shown := breaks.isPrefix
    rw [Line.text, element] at shown
    exact shown
  cases behind with
  | nil => rfl
  | cons c others =>
      rcases (List.prefix_append_right_inj _).mp isPrefix with ⟨more, rfl⟩
      exact ends

theorem isSome_opening? (breaks : line.Breaks part) :
    (opening? line.name part.tail).isSome = true := by
  rcases breaks.tail_eq with ⟨behind, tail, ends⟩
  rw [tail, opening?_append ends]
  rfl

theorem exists_element_eq (breaks : line.Breaks part) :
    ∃ more, line.element = part.tail ++ more ∧ more ≠ [] := by
  rcases breaks.exists_closed with ⟨behind, -, rfl, -⟩
  rcases breaks.isPrefix with ⟨more, whole⟩
  refine ⟨more, (List.cons.inj whole).2.symm, ?_⟩
  rintro rfl
  rw [List.append_nil] at whole
  exact breaks.proper whole

theorem read?_eq_none (breaks : line.Breaks part) : Element.read? part.tail = none := by
  cases line with
  | cursor offset =>
      rcases breaks.tail_eq with ⟨behind, tail, -⟩
      rw [tail]
      rfl
  | replacement spelling edit =>
      rw [Option.eq_none_iff_forall_ne_some]
      rintro ⟨element, after⟩ read
      rcases breaks.exists_element_eq with ⟨more, whole, cut⟩
      have extended := read?_append read more
      have complete := read?_renderElement spelling edit []
      rw [List.append_nil] at complete
      rw [← whole] at extended
      have same := Option.some.inj (complete.symm.trans extended)
      exact cut (List.append_eq_nil_iff.mp (congrArg Prod.snd same).symm).2

theorem cursorValue?_eq_none {offset : Nat} (breaks : (Line.cursor offset).Breaks part) :
    cursorValue? part.tail = none := by
  rw [Option.eq_none_iff_forall_ne_some]
  intro value read
  rcases breaks.exists_element_eq with ⟨more, whole, cut⟩
  rcases cursorValue?_eq_some_iff.mp read with ⟨content, rest, text, plain, -⟩
  have number : '<' ∉ Decimal.write offset :=
    not_mem_of_isValue (isValue_write offset) (by decide)
  rw [text] at whole
  unfold Line.element at whole
  simp only [List.append_assoc, List.append_cancel_left_eq] at whole
  -- the end tag stands at the first mark in both, and nothing is behind it
  have last := dropWhile_ne_append_cons number "/cursor>".toList
  have ends := dropWhile_ne_append_cons plain ("/cursor>".toList ++ (rest ++ more))
  have same := last.symm.trans ((congrArg (List.dropWhile (· ≠ '<')) whole).trans ends)
  have nothing := List.self_eq_append_right.mp (List.cons.inj same).2
  exact cut (List.append_eq_nil_iff.mp nothing).2

end Line.Breaks

/-! ## Reports cut off -/

/-- A report up to the end of the start tag of its root. -/
def rootTag (incomplete : Bool) : Text :=
  "<?xml version='1.0'?>\n".toList ++ renderRoot incomplete

/-- Lines that a report may have: one cursor at most, and numbers of 64 bits. -/
structure Fits (lines : List Line) : Prop where
  single : (lines.filterMap Line.cursor?).length ≤ 1
  cursors : ∀ offset ∈ lines.filterMap Line.cursor?, offset < UInt64.size
  edits : ∀ edit ∈ lines.filterMap Line.edit?,
    edit.offset < UInt64.size ∧ edit.length < UInt64.size

theorem Fits.of_append {before after : List Line} (fits : Fits (before ++ after)) :
    Fits before := by
  have single := fits.single
  have cursors := fits.cursors
  have edits := fits.edits
  rw [List.filterMap_append] at single cursors edits
  rw [List.length_append] at single
  refine ⟨by omega, ?_, ?_⟩
  · exact fun offset member => cursors offset (List.mem_append_left _ member)
  · exact fun edit member => edits edit (List.mem_append_left _ member)

/-- What lines tell that stand in a report. -/
def told (incomplete : Bool) (lines : List Line) : Batch where
  edits := (lines.filterMap Line.edit?).map normalizeEdit
  cursor := (lines.filterMap Line.cursor?).head?
  incomplete := incomplete

/-- How what comes next may have begun without an element having opened. -/
def stub : List Line → Text
  | [] => "\n</replacements".toList
  | line :: _ => '\n' :: '<' :: line.name.dropLast

/-- A report that is cut off before its end tag, and what comes of it. -/
inductive Cut (incomplete : Bool) (lines : List Line) :
    Text → Except Malformation Batch → Prop where
  | root {cut : Text}
      (isPrefix : cut <+: rootTag incomplete)
      (proper : cut ≠ rootTag incomplete) :
      Cut incomplete lines cut (.error .noRoot)
  | inside {before after : List Line} {line : Line} {part : Text}
      (split : lines = before ++ line :: after)
      (breaks : line.Breaks part) :
      Cut incomplete lines (rootTag incomplete ++ (written before ++ part)) (.error line.flaw)
  | between {before after : List Line} {part : Text}
      (split : lines = before ++ after)
      (unopened : part <+: stub after) :
      Cut incomplete lines (rootTag incomplete ++ (written before ++ part))
        (.ok (told incomplete before))

theorem cursor_written_of_open {lines : List Line} {part : Text}
    (none : lines.filterMap Line.cursor? = [])
    (opened : Scan.count (opening? "cursor".toList) part = 1)
    (unread : Scan.first cursorValue? part = .none) :
    cursor (written lines ++ part) = .error .openCursor := by
  have counted := count_cursor_written lines part
  have found := first_written lines part
  rw [none, opened] at counted
  rw [none, unread] at found
  unfold cursor
  rw [counted, found]
  rfl

section

variable {incomplete : Bool}

theorem parse_rootTag (incomplete : Bool) (body : Text) :
    parse (rootTag incomplete ++ body) =
      (do
        let cursor ← cursor body
        let edits ← edits body
        return ⟨edits, cursor, incomplete⟩) := by
  unfold parse rootTag
  rw [List.append_assoc, Root.read?_renderRoot]

-- there are but two such tags
theorem read?_of_mem_inits :
    ∀ incomplete, ∀ cut ∈ (rootTag incomplete).dropLast.inits, (Root.read? cut).isNone = true := by
  decide +kernel

theorem parse_of_isPrefix {cut : Text} (isPrefix : cut <+: rootTag incomplete)
    (proper : cut ≠ rootTag incomplete) : parse cut = .error .noRoot := by
  have unread : Root.read? cut = none := by
    have shorter : cut <+: (rootTag incomplete).dropLast := by
      have whole : rootTag incomplete = (rootTag incomplete).dropLast ++ ['>'] := by
        cases incomplete
        · decide
        · decide
      rw [whole] at isPrefix proper
      exact (List.prefix_concat_iff.mp isPrefix).resolve_left proper
    exact Option.isNone_iff_eq_none.mp
      (read?_of_mem_inits incomplete cut (List.mem_inits _ _ |>.mpr shorter))
  unfold parse
  rw [unread]
  rfl

theorem stub_mem (after : List Line) :
    stub after ∈ ["\n</replacements".toList, "\n<curso".toList, "\n<replacemen".toList] := by
  rcases after with _ | ⟨_ | _, _⟩
  · exact List.mem_cons_self
  · exact List.mem_cons_of_mem _ List.mem_cons_self
  · exact List.mem_cons_of_mem _ (List.mem_cons_of_mem _ List.mem_cons_self)

theorem quiet_of_mem_inits :
    ∀ whole ∈ ["\n</replacements".toList, "\n<curso".toList, "\n<replacemen".toList],
      ∀ part ∈ whole.inits,
        Scan.count (opening? "cursor".toList) part = 0 ∧
          Scan.count (opening? "replacement".toList) part = 0 ∧
          (Scan.all Element.read? part).isEmpty = true := by
  decide +kernel

variable {before after : List Line} {line : Line} {part cut : Text}

theorem parse_of_between (fits : Fits before) (unopened : part <+: stub after) :
    parse (rootTag incomplete ++ (written before ++ part)) = .ok (told incomplete before) := by
  rcases quiet_of_mem_inits _ (stub_mem after) part ((List.mem_inits _ _).mpr unopened) with
    ⟨noCursor, noReplacement, nothing⟩
  rw [parse_rootTag, cursor_written fits.single fits.cursors noCursor,
    edits_written fits.edits (List.isEmpty_iff.mp nothing), if_pos noReplacement]
  rfl

theorem parse_of_inside (fits : Fits (before ++ line :: after)) (breaks : line.Breaks part) :
    parse (rootTag incomplete ++ (written before ++ part)) = .error line.flaw := by
  rw [parse_rootTag]
  cases line with
  | cursor offset =>
      have alone : before.filterMap Line.cursor? = [] := by
        have here : (Line.cursor offset :: after).filterMap Line.cursor? =
            offset :: after.filterMap Line.cursor? := rfl
        have single := fits.single
        rw [List.filterMap_append, here, List.length_append, List.length_cons] at single
        rw [← List.length_eq_zero_iff]
        omega
      have opened : Scan.count (opening? "cursor".toList) part = 1 := by
        rw [breaks.count_eq opener_cursor]
        exact if_pos breaks.isSome_opening?
      have unread := breaks.first_eq_none opener_cursorValue? breaks.cursorValue?_eq_none
      rw [cursor_written_of_open alone opened unread]
      rfl
  | replacement spelling edit =>
      have front := fits.of_append
      have unopened : Scan.count (opening? "cursor".toList) part = 0 := by
        rcases breaks.tail_eq with ⟨behind, tail, -⟩
        rw [breaks.count_eq opener_cursor, tail]
        rfl
      have opened : Scan.count (opening? "replacement".toList) part = 1 := by
        rw [breaks.count_eq opener_replacement]
        exact if_pos breaks.isSome_opening?
      have unread := breaks.all_eq_nil opener_read? breaks.read?_eq_none
      rw [cursor_written front.single front.cursors unopened, ok_bind,
        edits_written front.edits unread, if_neg (by omega)]
      rfl

theorem Cut.parse_eq {lines : List Line} {result : Except Malformation Batch} (fits : Fits lines)
    (isCut : Cut incomplete lines cut result) : parse cut = result := by
  cases isCut with
  | root isPrefix proper => exact parse_of_isPrefix isPrefix proper
  | inside split breaks =>
      rw [split] at fits
      exact parse_of_inside fits breaks
  | between split unopened =>
      rw [split] at fits
      exact parse_of_between fits.of_append unopened

end

/-! ## Where a report is cut off -/

theorem prefix_append_cases {whole more cut : Text} (isPrefix : cut <+: whole ++ more) :
    (cut <+: whole ∧ cut ≠ whole) ∨ ∃ rest, cut = whole ++ rest ∧ rest <+: more := by
  by_cases complete : whole <+: cut
  · rcases complete with ⟨rest, rfl⟩
    exact Or.inr ⟨rest, rfl, (List.prefix_append_right_inj whole).mp isPrefix⟩
  · have shorter := List.prefix_or_prefix_of_prefix isPrefix (List.prefix_append whole more)
    refine Or.inl ⟨shorter.resolve_right complete, ?_⟩
    rintro rfl
    exact complete List.prefix_rfl

theorem Line.breaks_or_stub {line : Line} {part : Text} (isPrefix : part <+: line.text)
    (proper : part ≠ line.text) (others : List Line) :
    line.Breaks part ∨ part <+: stub (line :: others) := by
  have openedPrefix : line.opened <+: line.text := by
    rcases line.exists_name_append with ⟨rest, element, -⟩
    rw [Line.text, element]
    exact List.prefix_append line.opened rest
  have last : ∃ c, line.opened = stub (line :: others) ++ [c] := by
    cases line with
    | cursor offset => exact ⟨'r', rfl⟩
    | replacement spelling edit => exact ⟨'t', rfl⟩
  rcases List.prefix_or_prefix_of_prefix isPrefix openedPrefix with shorter | longer
  · rcases last with ⟨c, opened⟩
    rw [opened] at shorter
    rcases List.prefix_concat_iff.mp shorter with whole | unopened
    · refine Or.inl ⟨?_, isPrefix, proper⟩
      rw [opened, whole]
    · exact Or.inr unopened
  · exact Or.inl ⟨longer, isPrefix, proper⟩

theorem exists_cut_of_written (lines : List Line) {cut : Text}
    (isPrefix : cut <+: written lines ++ stub []) :
    ∃ before part, cut = written before ++ part ∧
      ((∃ after, lines = before ++ after ∧ part <+: stub after) ∨
        ∃ line after, lines = before ++ line :: after ∧ line.Breaks part) := by
  induction lines generalizing cut with
  | nil => exact ⟨[], cut, rfl, Or.inl ⟨[], rfl, isPrefix⟩⟩
  | cons line others inductionHypothesis =>
      have split : written (line :: others) ++ stub [] =
          line.text ++ (written others ++ stub []) :=
        written_cons_append line others _
      rw [split] at isPrefix
      -- a cut in this line leaves the others out, and one behind it is a cut of the others
      rcases prefix_append_cases isPrefix with ⟨shorter, proper⟩ | ⟨rest, rfl, later⟩
      · rcases Line.breaks_or_stub shorter proper others with breaks | unopened
        · exact ⟨[], cut, rfl, Or.inr ⟨line, others, rfl, breaks⟩⟩
        · exact ⟨[], cut, rfl, Or.inl ⟨line :: others, rfl, unopened⟩⟩
      · rcases inductionHypothesis later with
          ⟨before, part, rfl, ⟨after, rfl, unopened⟩ | ⟨broken, after, rfl, breaks⟩⟩
        · exact ⟨line :: before, part, (written_cons_append line before part).symm,
            Or.inl ⟨after, rfl, unopened⟩⟩
        · exact ⟨line :: before, part, (written_cons_append line before part).symm,
            Or.inr ⟨broken, after, rfl, breaks⟩⟩

theorem exists_cut {incomplete : Bool} {lines : List Line} {cut : Text}
    (isPrefix : cut <+: rootTag incomplete ++ (written lines ++ stub [])) :
    ∃ result, Cut incomplete lines cut result := by
  rcases prefix_append_cases isPrefix with ⟨shorter, proper⟩ | ⟨rest, rfl, later⟩
  · exact ⟨_, .root shorter proper⟩
  · rcases exists_cut_of_written lines later with
      ⟨before, part, rfl, ⟨after, split, unopened⟩ | ⟨line, after, split, breaks⟩⟩
    · exact ⟨_, .between split unopened⟩
    · exact ⟨_, .inside split breaks⟩

section

variable {spelling : Nat → Spelling} {batch : Batch} {cut : Text}

theorem render_eq (spelling : Nat → Spelling) (batch : Batch) :
    render spelling batch =
      rootTag batch.incomplete ++ (written (lines spelling batch) ++ stub []) ++ ">\n".toList := by
  have children := children_eq spelling batch "</replacements>\n".toList
  unfold render renderOpen rootTag
  simp only [List.append_assoc, List.cons_append]
  rw [children]
  rfl

theorem isPrefix_of_unclosed (isPrefix : cut <+: render spelling batch)
    (unclosed : ¬ "</replacements>".toList <:+: cut) :
    cut <+: rootTag batch.incomplete ++ (written (lines spelling batch) ++ stub []) := by
  rw [render_eq] at isPrefix
  rcases prefix_append_cases isPrefix with ⟨shorter, -⟩ | ⟨rest, rfl, last⟩
  · exact shorter
  · cases rest with
    | nil => rw [List.append_nil]
    | cons c others =>
        have ends : c = '>' := (List.cons_prefix_cons.mp last).1
        have closing :
            stub [] ++ '>' :: others = ['\n'] ++ "</replacements>".toList ++ others := rfl
        refine (unclosed ?_).elim
        rw [ends, List.append_assoc, List.append_assoc, closing, ← List.append_assoc,
          ← List.append_assoc, ← List.append_assoc]
        exact List.infix_append _ _ _

theorem fits_lines (spelling : Nat → Spelling) (representable : Representable batch) :
    Fits (lines spelling batch) where
  single := by
    rw [cursors_lines]
    cases batch.cursor with
    | none => exact Nat.zero_le 1
    | some offset => exact Nat.le_refl 1
  cursors := by
    rw [cursors_lines]
    intro offset member
    exact representable.cursor offset (Option.mem_toList.mp member)
  edits := by
    rw [edits_lines]
    exact representable.edits

/-- What is told by the lines in front of a cut is a beginning of the batch. -/
theorem told_of_split {before after : List Line} (split : lines spelling batch = before ++ after) :
    (told batch.incomplete before).edits <+: (normalize batch).edits ∧
      ((told batch.incomplete before).cursor = batch.cursor ∨
        told batch.incomplete before = ⟨[], none, batch.incomplete⟩) := by
  have edits := edits_lines spelling batch
  rw [split, List.filterMap_append] at edits
  refine ⟨?_, ?_⟩
  · change _ <+: batch.edits.map normalizeEdit
    rw [← edits, List.map_append]
    exact List.prefix_append _ _
  · cases before with
    | nil => exact Or.inr rfl
    | cons line others =>
        refine Or.inl ?_
        change ((line :: others).filterMap Line.cursor?).head? = batch.cursor
        have cursors := cursors_lines spelling batch
        rw [split, List.filterMap_append] at cursors
        cases placed : batch.cursor with
        | none =>
            rw [placed] at cursors
            rw [(List.append_eq_nil_iff.mp cursors).1]
            rfl
        | some offset =>
            unfold lines at split
            rw [placed] at split
            rw [← (List.cons.inj split).1]
            rfl

theorem parse_eq_iff_cut (representable : Representable batch)
    (isPrefix : cut <+: render spelling batch) (unclosed : ¬ "</replacements>".toList <:+: cut)
    (result : Except Malformation Batch) :
    parse cut = result ↔ Cut batch.incomplete (lines spelling batch) cut result := by
  rcases exists_cut (isPrefix_of_unclosed isPrefix unclosed) with ⟨other, isCut⟩
  have fits := fits_lines spelling representable
  have read := isCut.parse_eq fits
  constructor
  · rintro rfl
    rw [read]
    exact isCut
  · exact Cut.parse_eq fits

end

section

variable {tool output : Text}

theorem ofOutput_eq_ok_iff {batch : Batch} :
    ofOutput tool output = .ok batch ↔ parse output = .ok batch := by
  unfold ofOutput
  cases parse output with
  | error cause => simp
  | ok found => simp

theorem ofOutput_eq_error_iff {failure : Failure} :
    ofOutput tool output = .error failure ↔
      ∃ cause, parse output = .error cause ∧ failure = .malformed tool (.replacements cause) := by
  unfold ofOutput
  cases parse output with
  | error cause => simp [eq_comm]
  | ok found => simp

end

/-- A report that ends before its end tag is read up to the cut: where the cut goes through the
start tag of the root, or through an element behind the name in its tag, nothing is read and the
output is malformed, and anywhere else the lines in front of the cut are read and what is missing is
not missed. -/
theorem truncated_report_read_up_to_cut (tool : Text) (spelling : Nat → Spelling) {batch : Batch}
    (representable : Representable batch) {cut : Text}
    (isPrefix : cut <+: render spelling batch)
    (unclosed : ¬ "</replacements>".toList <:+: cut) :
    (∀ other, ofOutput tool cut = .ok other ↔
      Cut batch.incomplete (lines spelling batch) cut (.ok other)) ∧
    (∀ failure, ofOutput tool cut = .error failure ↔
      ∃ flaw, Cut batch.incomplete (lines spelling batch) cut (.error flaw) ∧
        failure = .malformed tool (.replacements flaw)) ∧
    ∀ other, ofOutput tool cut = .ok other →
      other.edits <+: (normalize batch).edits ∧
        (other.cursor = batch.cursor ∨ other = ⟨[], none, batch.incomplete⟩) := by
  have isCut := parse_eq_iff_cut representable isPrefix unclosed
  have readable (other : Batch) : ofOutput tool cut = .ok other ↔
      Cut batch.incomplete (lines spelling batch) cut (.ok other) :=
    ofOutput_eq_ok_iff.trans (isCut (.ok other))
  refine ⟨readable, ?_, ?_⟩
  · intro failure
    rw [ofOutput_eq_error_iff]
    simp only [isCut]
  · intro other found
    cases (readable other).mp found with
    | between split unopened => exact told_of_split split

/-- In an element the cut is found out, but in front of the last letter of its name it is not. -/
theorem truncated_report_read_up_to_cut_cursor :
    let spelling : Nat → Spelling := fun _ => ⟨false, false, false, false⟩
    let batch : Batch := ⟨[⟨0, 1, some ['x']⟩], some 6, false⟩
    let inside := rootTag false ++ (written [] ++ "\n<cursor>6</cur".toList)
    let between := rootTag false ++ (written [] ++ "\n<curso".toList)
    Representable batch ∧
      (inside <+: render spelling batch ∧ ¬ "</replacements>".toList <:+: inside ∧
        ofOutput "clang-format".toList inside =
          .error (.malformed "clang-format".toList (.replacements .openCursor))) ∧
      between <+: render spelling batch ∧ ¬ "</replacements>".toList <:+: between ∧
        ofOutput "clang-format".toList between = .ok ⟨[], none, false⟩ := by
  intro spelling batch inside between
  have representable : Representable batch := ⟨by decide, by decide⟩
  have insidePrefix : inside <+: render spelling batch := by decide +kernel
  have betweenPrefix : between <+: render spelling batch := by decide +kernel
  have insideUnclosed : ¬ "</replacements>".toList <:+: inside := by decide +kernel
  have betweenUnclosed : ¬ "</replacements>".toList <:+: between := by decide +kernel
  have broken : Cut false (lines spelling batch) inside (.error (Line.cursor 6).flaw) :=
    .inside rfl ⟨by decide, by decide, by decide⟩
  have whole : Cut false (lines spelling batch) between (.ok (told false [])) :=
    .between rfl (by decide)
  refine ⟨representable, ⟨insidePrefix, insideUnclosed, ?_⟩, betweenPrefix, betweenUnclosed, ?_⟩
  · have read := truncated_report_read_up_to_cut "clang-format".toList spelling representable
      insidePrefix insideUnclosed
    exact (read.2.1 _).mpr ⟨_, broken, rfl⟩
  · have read := truncated_report_read_up_to_cut "clang-format".toList spelling representable
      betweenPrefix betweenUnclosed
    exact (read.1 _).mpr whole

/-- Of a report of two edits that is cut off between them, the first one is read alone. -/
theorem truncated_report_loses_edit :
    let spelling : Nat → Spelling := fun _ => ⟨false, false, false, false⟩
    let cut := "<?xml version='1.0'?>\n".toList ++
      "<replacements xml:space='preserve' incomplete_format='false'>\n".toList ++
      "<replacement offset='0' length='1'>x</replacement>\n".toList
    cut <+: render spelling ⟨[⟨0, 1, some ['x']⟩, ⟨1, 0, some ['y']⟩], none, false⟩ ∧
      ¬ "</replacements>".toList <:+: cut ∧
      ofOutput "clang-format".toList cut = .ok ⟨[⟨0, 1, some ['x']⟩], none, false⟩ := by
  decide +kernel

end Reformat.Replacements
