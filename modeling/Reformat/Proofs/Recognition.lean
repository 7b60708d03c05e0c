import Reformat.Proofs.Except
import Reformat.Proofs.Grammar

/-!
Reports recognized. Main statement: a batch is read from a text just where the text is a report of
that batch, so that no opening of an element is passed over, and from any other text nothing is
read.
-/

namespace Reformat.Replacements

open Text

/-! ## Tags and elements -/

theorem Tag.read?_eq_some_iff {text : Text} {tag : Tag} :
    Tag.read? text = some tag ↔ IsTag text tag := by
  constructor
  · intro found
    unfold Tag.read? at found
    have absent := not_mem_takeWhile_ne '>' text
    cases split : text.dropWhile (· ≠ '>') with
    | nil =>
        rw [split] at found
        exact absurd found (by simp)
    | cons c rest =>
        have text_eq := eq_append_of_dropWhile_ne split
        rw [split] at found
        generalize text.takeWhile (· ≠ '>') = inside at found absent text_eq
        simp only at found
        rw [text_eq]
        split at found
        · rename_i closes
          obtain ⟨held, rfl⟩ := List.getLast?_eq_some_iff.mp closes
          rw [List.dropLast_concat] at found
          cases Option.some.inj found
          rw [List.append_assoc]
          exact IsTag.selfClosing fun member => absent (List.mem_append_left _ member)
        · rename_i unclosed
          cases Option.some.inj found
          exact IsTag.plain absent unclosed
  · rintro (absent | ⟨absent, last⟩)
    · exact Tag.read?_selfClosing absent _
    · exact Tag.read?_open absent last _

theorem Element.read?_eq_some_iff {text after : Text} {element : Element} :
    Element.read? text = some (element, after) ↔
      Opens "replacement".toList text ∧ IsElement text element after := by
  constructor
  · intro found
    obtain ⟨behind, opened, inTag⟩ := Option.bind_eq_some_iff.mp found
    obtain ⟨tag, read, inElement⟩ := Option.bind_eq_some_iff.mp inTag
    obtain ⟨text_eq, ends⟩ := opening?_eq_some_iff.mp opened
    have isTag := Tag.read?_eq_some_iff.mp read
    refine ⟨⟨behind, text_eq, ends⟩, ?_⟩
    obtain ⟨inside, selfClosing, rest⟩ := tag
    rw [text_eq]
    cases selfClosing with
    | true =>
        cases Option.some.inj inElement
        exact IsElement.selfClosing isTag
    | false =>
        obtain ⟨closing, marked, inEnd⟩ := Option.bind_eq_some_iff.mp inElement
        obtain ⟨others, ended, result⟩ := Option.bind_eq_some_iff.mp inEnd
        cases Option.some.inj result
        have endTag := Scan.eq_append_of_dropMark marked
        have last := Scan.eq_append_of_dropMark ended
        have blanks := List.takeWhile_append_dropWhile (p := isBlank) (l := closing)
        rw [last] at blanks
        have rest_eq :
            rest = rest.takeWhile (· ≠ '<') ++
              ("</replacement".toList ++ (closing.takeWhile isBlank ++ '>' :: after)) := by
          have joined : closing.takeWhile isBlank ++ '>' :: after = closing := blanks
          rw [joined, ← endTag]
          exact List.takeWhile_append_dropWhile.symm
        rw [rest_eq] at isTag
        exact IsElement.filled isTag (not_mem_takeWhile_ne '<' rest)
          fun c member => List.mem_takeWhile_imp member
  · rintro ⟨⟨behind, text_eq, ends⟩, isElement⟩
    have opened := opening?_eq_some_iff.mpr ⟨text_eq, ends⟩
    unfold Element.read?
    rw [opened]
    cases isElement with
    | @selfClosing tagged inside rest isTag =>
        obtain rfl : tagged = behind := by simpa using text_eq
        simp only [Option.bind_eq_bind, Option.bind_some, Tag.read?_eq_some_iff.mpr isTag]
        rfl
    | @filled tagged inside content blanks rest isTag plain blank =>
        obtain rfl : tagged = behind := by simpa using text_eq
        have closing :
            Scan.dropMark "</replacement".toList
                ("</replacement".toList ++ (blanks ++ '>' :: after)) =
              some (blanks ++ '>' :: after) :=
          Scan.dropMark_append _ _
        have ended : Scan.dropMark ['>'] ('>' :: after) = some after :=
          Scan.dropMark_append ['>'] after
        have untilEnd :
            (content ++ ("</replacement".toList ++ (blanks ++ '>' :: after))).dropWhile
                (· ≠ '<') =
              "</replacement".toList ++ (blanks ++ '>' :: after) :=
          dropWhile_ne_append_cons plain _
        have held :
            (content ++ ("</replacement".toList ++ (blanks ++ '>' :: after))).takeWhile
                (· ≠ '<') =
              content :=
          takeWhile_ne_append_cons plain _
        have unblank : (blanks ++ '>' :: after).dropWhile isBlank = '>' :: after :=
          dropWhile_append_cons blank (by decide) after
        simp only [Option.bind_eq_bind, Option.bind_some, Tag.read?_eq_some_iff.mpr isTag,
          untilEnd, closing, unblank, ended, held]
        rfl

theorem IsTag.isSuffix {behind : Text} {tag : Tag} (isTag : IsTag behind tag) :
    tag.rest <:+ behind := by
  cases isTag with
  | @selfClosing inside rest _ => exact ⟨inside ++ ['/', '>'], by simp⟩
  | @plain inside rest _ _ => exact ⟨inside ++ ['>'], by simp⟩

theorem IsElement.isSuffix {text after : Text} {element : Element}
    (isElement : IsElement text element after) :
    ∃ behind, text = '<' :: ("replacement".toList ++ behind) ∧ after <:+ behind := by
  cases isElement with
  | @selfClosing behind inside _ isTag => exact ⟨behind, rfl, isTag.isSuffix⟩
  | @filled behind inside content blanks _ isTag _ _ =>
      have inTag : after <:+
          content ++ ("</replacement".toList ++ (blanks ++ '>' :: after)) :=
        ⟨content ++ ("</replacement".toList ++ (blanks ++ ['>'])), by simp⟩
      exact ⟨behind, rfl, inTag.trans isTag.isSuffix⟩

theorem findsAt_read? : Scan.FindsAt (Opens "replacement".toList) Element.read? where
  opens := fun found => (Element.read?_eq_some_iff.mp found).1
  isSuffix := by
    intro text after element found
    obtain ⟨behind, rfl, suffix⟩ := (Element.read?_eq_some_iff.mp found).2.isSuffix
    exact suffix.trans (List.suffix_append ('<' :: "replacement".toList) behind)
  shorter := by
    intro text after element found
    obtain ⟨behind, rfl, suffix⟩ := (Element.read?_eq_some_iff.mp found).2.isSuffix
    have bound := suffix.length_le
    rw [List.length_cons, List.length_append]
    omega

/-! ## Attributes -/

theorem isNameStart_iff {c : Char} : isNameStart c = true ↔ c.isAlpha = true ∨ c = '_' := by
  simp [isNameStart]

theorem isNameChar_iff {c : Char} :
    isNameChar c = true ↔ isWordChar c = true ∨ c ∈ [':', '.', '-'] := by
  simp [isNameChar, or_assoc]

theorem IsAttribute.attribute?_eq {text rest : Text} {entry : Text × Text}
    (isAttribute : IsAttribute text entry rest) : attribute? text = some (entry, rest) := by
  cases isAttribute with
  | @mk start mark others before behind value _ begins inside blankBefore blankBehind quote absent =>
      have named : isName (start :: others) = true := by
        rw [isName, Bool.and_eq_true, List.all_eq_true]
        exact ⟨isNameStart_iff.mpr begins, fun c member => isNameChar_iff.mpr (inside c member)⟩
      exact attribute?_append named blankBefore blankBehind quote absent rest

theorem quotedValue?_eq_some {text value rest : Text}
    (found : quotedValue? text = some (value, rest)) :
    ∃ mark, (mark = '\'' ∨ mark = '"') ∧ mark ∉ value ∧ text = mark :: (value ++ mark :: rest) := by
  cases text with
  | nil => cases found
  | cons mark text =>
      by_cases quote : mark = '\'' ∨ mark = '"'
      · rw [quotedValue?, if_pos quote] at found
        cases ended : text.dropWhile (· ≠ mark) with
        | nil =>
            rw [ended] at found
            cases found
        | cons last behind =>
            rw [ended] at found
            obtain ⟨rfl, rfl⟩ := Prod.mk.inj (Option.some.inj found)
            refine ⟨mark, quote, not_mem_takeWhile_ne mark text, ?_⟩
            rw [← eq_append_of_dropWhile_ne ended]
      · rw [quotedValue?, if_neg quote] at found
        cases found

theorem isAttribute_of_attribute? {text rest : Text} {entry : Text × Text}
    (found : attribute? text = some (entry, rest)) : IsAttribute text entry rest := by
  cases text with
  | nil => cases found
  | cons start text =>
      rw [attribute?] at found
      split at found
      · cases found
      · rename_i begins
        obtain ⟨behindSign, marked, inValue⟩ := Option.bind_eq_some_iff.mp found
        obtain ⟨⟨value, others⟩, quoted, result⟩ := Option.bind_eq_some_iff.mp inValue
        obtain ⟨rfl, rfl⟩ := Prod.mk.inj (Option.some.inj result)
        obtain ⟨mark, quote, absent, quoted_eq⟩ := quotedValue?_eq_some quoted
        have sign : (text.dropWhile isNameChar).dropWhile isBlank = '=' :: behindSign :=
          Scan.eq_append_of_dropMark marked
        have text_eq : start :: text =
            start :: text.takeWhile isNameChar ++
              ((text.dropWhile isNameChar).takeWhile isBlank ++
                '=' :: (behindSign.takeWhile isBlank ++ mark :: (value ++ mark :: others))) := by
          rw [← quoted_eq, List.takeWhile_append_dropWhile, ← sign,
            List.takeWhile_append_dropWhile, List.cons_append, List.takeWhile_append_dropWhile]
        rw [text_eq]
        refine .mk ?_ ?_ ?_ ?_ quote absent
        · exact isNameStart_iff.mp (by simpa using begins)
        · exact fun c member => isNameChar_iff.mp (List.mem_takeWhile_imp member)
        · exact fun c member => List.mem_takeWhile_imp member
        · exact fun c member => List.mem_takeWhile_imp member

theorem attribute?_eq_some_iff {text rest : Text} {entry : Text × Text} :
    attribute? text = some (entry, rest) ↔ IsAttribute text entry rest :=
  ⟨isAttribute_of_attribute?, IsAttribute.attribute?_eq⟩

theorem IsAttribute.length_lt {text rest : Text} {entry : Text × Text}
    (isAttribute : IsAttribute text entry rest) : rest.length < text.length := by
  cases isAttribute with
  | mk =>
      simp only [List.length_append, List.length_cons]
      omega

/-- Attributes are read just as the text has them. -/
theorem attributes_eq_iff {inside : Text} {given : List (Text × Text)} :
    attributes inside = given ↔ HasAttributes inside given := by
  unfold attributes
  constructor
  · rintro rfl
    fun_induction Scan.all attribute? inside with
    | case1 => exact .nil
    | case2 c text entry after here shorter ih =>
        exact .found (attribute?_eq_some_iff.mp here) ih
    | case3 c text entry after here longer ih =>
        exact absurd (attribute?_eq_some_iff.mp here).length_lt longer
    | case4 c text nothing ih =>
        refine .passed ?_ ih
        intro entry rest isAttribute
        rw [isAttribute.attribute?_eq] at nothing
        cases nothing
  · intro hasAttributes
    induction hasAttributes with
    | nil => rw [Scan.all]
    | found isAttribute _ ih =>
        rw [Scan.all_of_eq_some isAttribute.attribute?_eq isAttribute.length_lt, ih]
    | @passed c text given nothing _ ih =>
        have unread : attribute? (c :: text) = none :=
          Option.eq_none_iff_forall_ne_some.mpr fun found here =>
            nothing _ _ (attribute?_eq_some_iff.mp here)
        rw [Scan.all, unread]
        exact ih

/-! ## Edits -/

theorem IsNumber.of_read? {value : Text} {n : Nat} (read : Decimal.read? value = some n) :
    IsNumber value n := by
  have digitsOf {digits : Text} (found : Decimal.digits? digits = some n) :
      digits ≠ [] ∧ (∀ c ∈ digits, c.isDigit = true) ∧ Nat.ofDigitChars 10 digits 0 = n := by
    unfold Decimal.digits? at found
    split at found
    · rename_i written
      simp only [Bool.and_eq_true, Bool.not_eq_true', List.isEmpty_eq_false_iff,
        List.all_eq_true] at written
      exact ⟨written.1, written.2, Option.some.inj found⟩
    · exact absurd found (by simp)
  obtain ⟨found, fits⟩ := Option.filter_eq_some_iff.mp read
  refine ⟨of_decide_eq_true fits, ?_⟩
  split at found
  · exact ⟨_, Or.inr rfl, digitsOf found⟩
  · exact ⟨_, Or.inl rfl, digitsOf found⟩

theorem read?_eq_some_iff {value : Text} {n : Nat} :
    Decimal.read? value = some n ↔ IsNumber value n := by
  refine ⟨IsNumber.of_read?, ?_⟩
  rintro ⟨fits, digits, spelled, nonempty, allDigits, sum⟩
  have found : Decimal.digits? digits = some n := by
    simp [Decimal.digits?, nonempty, List.all_eq_true.mpr allDigits, sum]
  have kept : (Decimal.digits? digits).filter (· < UInt64.size) = some n := by
    rw [found]
    exact Option.filter_some_pos (decide_eq_true fits)
  rcases spelled with rfl | rfl
  · unfold Decimal.read?
    split
    · -- a sign is no digit
      exact absurd (allDigits '+' List.mem_cons_self) (by decide)
    · exact kept
  · exact kept

theorem valueOf?_eq_some_iff {name value : Text} {given : List (Text × Text)} :
    valueOf? name given = some value ↔
      ∃ earlier later,
        given = earlier ++ (name, value) :: later ∧ ∀ other ∈ later, other.1 ≠ name := by
  unfold valueOf?
  rw [List.lookup_eq_some_iff]
  constructor
  · rintro ⟨later, earlier, split, others⟩
    refine ⟨earlier.reverse, later.reverse, ?_, ?_⟩
    · have turned := congrArg List.reverse split
      simpa using turned
    · intro other member
      have different := others other (List.mem_reverse.mp member)
      simp only [bne_iff_ne] at different
      exact different.symm
  · rintro ⟨earlier, later, rfl, others⟩
    refine ⟨later.reverse, earlier.reverse, by simp, ?_⟩
    intro other member
    have different := others other (List.mem_reverse.mp member)
    simp [different.symm]

theorem valueOf?_attributes_eq_some_iff {inside name value : Text} :
    valueOf? name (attributes inside) = some value ↔ HasValue inside name value := by
  rw [valueOf?_eq_some_iff]
  simp only [attributes_eq_iff]
  rfl

theorem number_eq_ok_iff {inside name : Text} {n : Nat} :
    number name (attributes inside) = .ok n ↔ HasNumber inside name n := by
  unfold HasNumber number
  simp only [← valueOf?_attributes_eq_some_iff, ← read?_eq_some_iff]
  cases valueOf? name (attributes inside) with
  | none => simp [throw, throwThe, MonadExceptOf.throw]
  | some value =>
      cases numeral : Decimal.read? value with
      | none => simp [numeral, throw, throwThe, MonadExceptOf.throw]
      | some found => simp [numeral, pure, Except.pure]

theorem edit_eq_ok_iff {element : Element} {edit : Edit} :
    element.edit = .ok edit ↔ Describes element edit := by
  unfold Element.edit
  simp only [bind_eq_ok_iff, number_eq_ok_iff]
  constructor
  · rintro ⟨offset, hasOffset, length, hasLength, done⟩
    cases Except.ok.inj done
    exact ⟨hasOffset, hasLength, by simp⟩
  · rintro ⟨hasOffset, hasLength, text⟩
    refine ⟨edit.offset, hasOffset, edit.length, hasLength, ?_⟩
    obtain ⟨offset, length, written⟩ := edit
    simp only at text
    rw [text]
    simp [pure, Except.pure]

theorem describesAt_iff {place : Text} {edit : Edit} :
    Opens "replacement".toList place ∧ DescribesAt place edit ↔
      ∃ element, Scan.FindsAlone (Opens "replacement".toList) Element.read? place element ∧
        element.edit = .ok edit := by
  constructor
  · rintro ⟨opens, element, after, isElement, lone, describes⟩
    have alone := (openings_eq_cons_iff isElement opens).mpr lone
    exact ⟨element, ⟨after, Element.read?_eq_some_iff.mpr ⟨opens, isElement⟩, alone⟩,
      edit_eq_ok_iff.mpr describes⟩
  · rintro ⟨element, ⟨after, found, alone⟩, read⟩
    obtain ⟨opens, isElement⟩ := Element.read?_eq_some_iff.mp found
    exact ⟨opens, element, after, isElement, (openings_eq_cons_iff isElement opens).mp alone,
      edit_eq_ok_iff.mp read⟩

private theorem forall₂_exists_iff {α β γ : Type} {first : α → β → Prop} {second : β → γ → Prop}
    {starts : List α} {ends : List γ} :
    List.Forall₂ (fun start stop => ∃ middle, first start middle ∧ second middle stop)
        starts ends ↔
      ∃ middles, List.Forall₂ first starts middles ∧ List.Forall₂ second middles ends := by
  constructor
  · intro related
    induction related with
    | nil => exact ⟨[], List.Forall₂.nil, List.Forall₂.nil⟩
    | cons here _ ih =>
        obtain ⟨middle, left, right⟩ := here
        obtain ⟨middles, lefts, rights⟩ := ih
        exact ⟨middle :: middles, lefts.cons left, rights.cons right⟩
  · rintro ⟨middles, lefts, rights⟩
    induction lefts generalizing ends with
    | nil =>
        cases rights
        exact List.Forall₂.nil
    | cons left _ ih =>
        obtain ⟨stop, others, right, later, rfl⟩ := List.forall₂_cons_left_iff.mp rights
        exact (ih later).cons ⟨_, left, right⟩

/-- All edits are read just where at each opening of an element stands one of its own. -/
theorem edits_eq_ok_iff {body : Text} {given : List Edit} :
    edits body = .ok given ↔
      List.Forall₂ DescribesAt (openings "replacement".toList body) given := by
  have compared :
      edits body = .ok given ↔
        (Scan.all Element.read? body).mapM Element.edit = .ok given ∧
          given.length = (openings "replacement".toList body).length := by
    unfold edits
    rw [bind_eq_ok_iff, count_opening?]
    constructor
    · rintro ⟨read, every, result⟩
      split at result
      · rename_i complete
        cases Except.ok.inj result
        exact ⟨every, complete⟩
      · exact absurd result (by simp [throw, throwThe, MonadExceptOf.throw])
    · rintro ⟨every, complete⟩
      exact ⟨given, every, by rw [if_pos complete]; rfl⟩
  have opened : ∀ place ∈ openings "replacement".toList body,
      Opens "replacement".toList place :=
    fun _ member => opens_of_mem_openings member
  have described :
      List.Forall₂ DescribesAt (openings "replacement".toList body) given ↔
        ∃ elements,
          List.Forall₂ (Scan.FindsAlone (Opens "replacement".toList) Element.read?)
              (openings "replacement".toList body) elements ∧
            List.Forall₂ (fun element edit => Element.edit element = .ok edit) elements given := by
    rw [← forall₂_exists_iff]
    simp only [← describesAt_iff]
    rw [List.forall₂_and_left]
    exact (and_iff_right opened).symm
  rw [compared, described]
  constructor
  · rintro ⟨every, complete⟩
    have pairs := mapM_eq_ok_iff.mp every
    refine ⟨_, (findsAt_read?.forall₂_places_iff (not_opens_nil _) body _).mpr ⟨rfl, ?_⟩, pairs⟩
    exact pairs.length_eq.trans complete
  · rintro ⟨elements, alone, pairs⟩
    obtain ⟨rfl, complete⟩ :=
      (findsAt_read?.forall₂_places_iff (not_opens_nil _) body elements).mp alone
    exact ⟨mapM_eq_ok_iff.mpr pairs, pairs.length_eq.symm.trans complete⟩

/-! ## The cursor -/

theorem cursorValue?_eq_some_iff {text value : Text} :
    cursorValue? text = some value ↔
      ∃ content rest,
        text = "<cursor>".toList ++ (content ++ ("</cursor>".toList ++ rest)) ∧
          '<' ∉ content ∧ trim content = value := by
  constructor
  · intro found
    obtain ⟨inside, marked, inCursor⟩ := Option.bind_eq_some_iff.mp found
    obtain ⟨rest, closed, result⟩ := Option.bind_eq_some_iff.mp inCursor
    refine ⟨inside.takeWhile (· ≠ '<'), rest, ?_, not_mem_takeWhile_ne '<' inside,
      Option.some.inj result⟩
    rw [← Scan.eq_append_of_dropMark closed, List.takeWhile_append_dropWhile]
    exact Scan.eq_append_of_dropMark marked
  · rintro ⟨content, rest, rfl, absent, rfl⟩
    have closed :
        Scan.dropMark "</cursor>".toList ("</cursor>".toList ++ rest) = some rest :=
      Scan.dropMark_append _ _
    have behind :
        (content ++ ("</cursor>".toList ++ rest)).dropWhile (· ≠ '<') =
          "</cursor>".toList ++ rest :=
      dropWhile_ne_append_cons absent _
    have held :
        (content ++ ("</cursor>".toList ++ rest)).takeWhile (· ≠ '<') = content :=
      takeWhile_ne_append_cons absent _
    unfold cursorValue?
    simp only [Scan.dropMark_append, Option.bind_eq_bind, Option.bind_some, behind, closed, held]
    rfl

/-- A whole cursor element is an opening of one. -/
theorem opens_of_cursorValue? {text value : Text} (found : cursorValue? text = some value) :
    Opens "cursor".toList text := by
  obtain ⟨content, rest, rfl, -, -⟩ := cursorValue?_eq_some_iff.mp found
  refine ⟨'>' :: (content ++ ("</cursor>".toList ++ rest)), rfl, ?_⟩
  intro c member
  cases Option.mem_some.mp member
  decide

theorem first_cursorValue? (body : Text) :
    Scan.first cursorValue? body = (openings "cursor".toList body).findSome? cursorValue? :=
  Scan.first_eq_findSome?_places
    (fun text value (found : cursorValue? text = some value) => opens_of_cursorValue? found) body

/-- What is read where a single cursor element opens. -/
theorem cursor_eq_ok_iff_of_single {body place : Text} {given : Option Nat}
    (single : openings "cursor".toList body = [place]) :
    cursor body = .ok given ↔
      ∃ value offset,
        cursorValue? place = some value ∧ IsNumber value offset ∧ some offset = given := by
  unfold cursor
  simp only [count_opening?, first_cursorValue?, single, List.length_singleton,
    List.findSome?_singleton, ← read?_eq_some_iff]
  cases cursorValue? place with
  | none => simp [throw, throwThe, MonadExceptOf.throw]
  | some value =>
      cases numeral : Decimal.read? value with
      | none => simp [numeral, throw, throwThe, MonadExceptOf.throw]
      | some offset => simp [numeral, pure, Except.pure]

theorem cursor_eq_ok_iff {body : Text} {given : Option Nat} :
    cursor body = .ok given ↔ HasCursor body given := by
  constructor
  · intro read
    cases places : openings "cursor".toList body with
    | nil =>
        simp only [cursor, count_opening?, places, List.length_nil] at read
        cases Except.ok.inj read
        exact HasCursor.absent places
    | cons place others =>
        cases others with
        | nil =>
            obtain ⟨value, offset, found, isNumber, rfl⟩ :=
              (cursor_eq_ok_iff_of_single places).mp read
            obtain ⟨content, rest, rfl, absent, rfl⟩ := cursorValue?_eq_some_iff.mp found
            exact HasCursor.placed places absent isNumber
        | cons other more =>
            simp only [cursor, count_opening?, places, List.length_cons] at read
            exact absurd read (by simp [throw, throwThe, MonadExceptOf.throw])
  · rintro (absent | ⟨single, absent, isNumber⟩)
    · simp only [cursor, count_opening?, absent, List.length_nil]
      rfl
    · exact (cursor_eq_ok_iff_of_single single).mpr
        ⟨_, _, cursorValue?_eq_some_iff.mpr ⟨_, _, rfl, absent, rfl⟩, isNumber, rfl⟩

/-! ## The report -/

theorem Root.read?_eq_some_iff {output : Text} {root : Root} :
    Root.read? output = some root ↔
      ∃ behind tag,
        (openings "replacements".toList output).head? =
            some ('<' :: ("replacements".toList ++ behind)) ∧
          IsTag behind tag ∧
          (root.incomplete = true ↔
            HasValue tag.inside "incomplete_format".toList "true".toList) ∧
          root.body = tag.body := by
  have flagged (inside : Text) :
      decide (valueOf? "incomplete_format".toList (attributes inside) =
          some "true".toList) = true ↔
        HasValue inside "incomplete_format".toList "true".toList := by
    rw [decide_eq_true_iff, valueOf?_attributes_eq_some_iff]
  constructor
  · intro found
    obtain ⟨behind, opened, inTag⟩ := Option.bind_eq_some_iff.mp found
    obtain ⟨tag, read, result⟩ := Option.bind_eq_some_iff.mp inTag
    cases Option.some.inj result
    exact ⟨behind, tag, first_opening?_eq_some_iff.mp opened, Tag.read?_eq_some_iff.mp read,
      flagged tag.inside, rfl⟩
  · rintro ⟨behind, tag, opened, isTag, flag, body⟩
    obtain ⟨incomplete, content⟩ := root
    have same := Bool.eq_iff_iff.mpr ((flagged tag.inside).trans flag.symm)
    simp only at same body
    unfold Root.read?
    simp only [first_opening?_eq_some_iff.mpr opened, Tag.read?_eq_some_iff.mpr isTag,
      Option.bind_eq_bind, Option.bind_some, same, body]
    rfl

theorem parse_eq_ok_iff {output : Text} {batch : Batch} :
    parse output = .ok batch ↔ IsReport output batch := by
  constructor
  · intro read
    unfold parse at read
    cases found : Root.read? output with
    | none =>
        rw [found] at read
        exact absurd read (by simp [throw, throwThe, MonadExceptOf.throw])
    | some root =>
        simp only [found, bind_eq_ok_iff, cursor_eq_ok_iff, edits_eq_ok_iff] at read
        obtain ⟨placed, hasCursor, given, described, result⟩ := read
        obtain ⟨behind, tag, opened, isTag, flag, body⟩ := Root.read?_eq_some_iff.mp found
        rw [body] at hasCursor described
        cases Except.ok.inj result
        exact IsReport.mk opened isTag flag hasCursor described
  · rintro @⟨behind, tag, opened, isTag, flag, hasCursor, described⟩
    have found : Root.read? output = some ⟨batch.incomplete, tag.body⟩ :=
      Root.read?_eq_some_iff.mpr ⟨behind, tag, opened, isTag, flag, rfl⟩
    unfold parse
    rw [found]
    simp only [cursor_eq_ok_iff.mpr hasCursor, edits_eq_ok_iff.mpr described]
    rfl

/-- A batch is read from a text just where the text is a report of it, so that each opening of a
`replacement` element is one edit of the batch, in order, and what is no report of any batch is
refused as malformed. -/
theorem ofOutput_recognizes (tool output : Text) :
    (∀ batch, ofOutput tool output = .ok batch ↔ IsReport output batch) ∧
      ((∃ batch, IsReport output batch) ∨
        ∃ cause, ofOutput tool output = .error (.malformed tool (.replacements cause))) := by
  unfold ofOutput
  cases read : parse output with
  | error cause =>
      refine ⟨?_, Or.inr ⟨cause, rfl⟩⟩
      intro batch
      rw [← parse_eq_ok_iff, read]
      simp
  | ok found =>
      refine ⟨?_, Or.inl ⟨found, parse_eq_ok_iff.mp read⟩⟩
      intro batch
      rw [← parse_eq_ok_iff, read]
      simp

/-- Attributes given twice, with blanks around the sign; and an element that opens inside the tag of
another one, which is missed by the scan and no report of anything. -/
theorem ofOutput_recognizes_nested :
    let repeated :=
      "<replacements incomplete_format='true' incomplete_format = \"\">".toList ++
        "<cursor>\t6 </cursor>".toList ++
        "<replacement offset='9' length='+02' offset\n=\n'3'>&lt;</replacement >".toList
    let nested := "<replacements><replacement <replacement offset='1' length='2'/>".toList
    let batch : Batch := ⟨[⟨3, 2, some ['<']⟩], some 6, false⟩
    (ofOutput "clang-format".toList repeated = .ok batch ∧ IsReport repeated batch) ∧
      ofOutput "clang-format".toList nested =
          .error (.malformed "clang-format".toList (.replacements .openReplacement)) ∧
        ∀ batch, ¬ IsReport nested batch := by
  intro repeated nested batch
  have accepted : ofOutput "clang-format".toList repeated = .ok batch := by decide +kernel
  have refused : ofOutput "clang-format".toList nested =
      .error (.malformed "clang-format".toList (.replacements .openReplacement)) := by
    decide +kernel
  refine ⟨⟨accepted, ?_⟩, refused, ?_⟩
  · exact ((ofOutput_recognizes "clang-format".toList repeated).1 batch).mp accepted
  · intro other isReport
    have read := ((ofOutput_recognizes "clang-format".toList nested).1 other).mpr isReport
    rw [refused] at read
    cases read

end Reformat.Replacements
