import Mathlib.Data.List.Infix
import Reformat.Proofs.Recognition
import Reformat.Proofs.Words
import Reformat.Tool.ClangFormat

/-!
Ranges of lines on their way from one tool to another. Main statement: the ranges that are read from
what one tool prints are those written in it, and they come to the other one, each in an argument of
its own, as they were.
-/

namespace Reformat

namespace LineRange

open Replacements (IsNumber)

/-! ## Tokens -/

/-- A token is two numbers with the first colon between them. -/
def IsToken (token : Text) (range : LineRange) : Prop :=
  ∃ first last, token = first ++ ':' :: last ∧ ':' ∉ first ∧
    IsNumber first range.start ∧ IsNumber last range.stop

/-- What is wrong with a token. -/
inductive Flaw (token : Text) : Malformation → Prop where
  | noColon
      (absent : ':' ∉ token) :
      Flaw token (.noColon token)
  | start {first last : Text}
      (split : token = first ++ ':' :: last)
      (earliest : ':' ∉ first)
      (flawed : ∀ n, ¬ IsNumber first n) :
      Flaw token (.start token)
  | stop {first last : Text} {n : Nat}
      (split : token = first ++ ':' :: last)
      (earliest : ':' ∉ first)
      (number : IsNumber first n)
      (flawed : ∀ n, ¬ IsNumber last n) :
      Flaw token (.stop token)

section

variable {token first last : Text} {range : LineRange} {cause : Malformation}

theorem read?_eq_none_iff {value : Text} :
    Text.Decimal.read? value = none ↔ ∀ n, ¬ IsNumber value n := by
  rw [Option.eq_none_iff_forall_ne_some]
  exact forall_congr' fun n => not_congr Replacements.read?_eq_some_iff

theorem read_of_split (earliest : ':' ∉ first) :
    read (first ++ ':' :: last) =
      match Text.Decimal.read? first, Text.Decimal.read? last with
      | none, _ => .error (.start (first ++ ':' :: last))
      | some _, none => .error (.stop (first ++ ':' :: last))
      | some start, some stop => .ok ⟨start, stop⟩ := by
  unfold read
  rw [Text.splitOnce?_append earliest]
  rfl

theorem IsToken.read_eq (isToken : IsToken token range) : read token = .ok range := by
  rcases isToken with ⟨first, last, rfl, earliest, start, stop⟩
  rw [read_of_split earliest, Replacements.read?_eq_some_iff.mpr start,
    Replacements.read?_eq_some_iff.mpr stop]

theorem Flaw.read_eq (flaw : Flaw token cause) : read token = .error cause := by
  cases flaw with
  | noColon absent =>
      unfold read
      rw [Text.splitOnce?_eq_none absent]
      rfl
  | start split earliest flawed =>
      rw [split, read_of_split earliest, read?_eq_none_iff.mpr flawed]
  | stop split earliest number flawed =>
      rw [split, read_of_split earliest, Replacements.read?_eq_some_iff.mpr number,
        read?_eq_none_iff.mpr flawed]

/-- A token either is a range or has a flaw. -/
theorem isToken_or_flaw (token : Text) :
    (∃ range, IsToken token range) ∨ ∃ cause, Flaw token cause := by
  by_cases colon : ':' ∈ token
  · rcases List.eq_append_cons_of_mem colon with ⟨first, last, split, earliest⟩
    cases start : Text.Decimal.read? first with
    | none => exact Or.inr ⟨_, .start split earliest (read?_eq_none_iff.mp start)⟩
    | some low =>
        have number := Replacements.read?_eq_some_iff.mp start
        cases stop : Text.Decimal.read? last with
        | none => exact Or.inr ⟨_, .stop split earliest number (read?_eq_none_iff.mp stop)⟩
        | some high =>
            exact Or.inl ⟨⟨low, high⟩, first, last, split, earliest, number,
              Replacements.read?_eq_some_iff.mp stop⟩
  · exact Or.inr ⟨_, .noColon colon⟩

theorem read_eq_ok_iff : read token = .ok range ↔ IsToken token range := by
  refine ⟨?_, IsToken.read_eq⟩
  intro found
  rcases isToken_or_flaw token with ⟨other, isToken⟩ | ⟨cause, flaw⟩
  · rw [isToken.read_eq] at found
    cases found
    exact isToken
  · rw [flaw.read_eq] at found
    cases found

theorem read_eq_error_iff : read token = .error cause ↔ Flaw token cause := by
  refine ⟨?_, Flaw.read_eq⟩
  intro failed
  rcases isToken_or_flaw token with ⟨range, isToken⟩ | ⟨other, flaw⟩
  · rw [isToken.read_eq] at failed
    cases failed
  · rw [flaw.read_eq] at failed
    cases failed
    exact flaw

/-- A range that is read has numbers of 64 bits. -/
theorem IsToken.fits (isToken : IsToken token range) :
    range.start < UInt64.size ∧ range.stop < UInt64.size := by
  rcases isToken with ⟨_, _, -, -, start, stop⟩
  exact ⟨start.1, stop.1⟩

end

/-! ## Lists of ranges -/

section

variable {tool output : Text} {ranges : List LineRange} {failure : Failure}

theorem mapM_read_write
    (fit : ∀ range ∈ ranges, range.start < UInt64.size ∧ range.stop < UInt64.size) :
    (ranges.map write).mapM read = .ok ranges := by
  rw [mapM_eq_ok_iff, List.forall₂_map_left_iff, List.forall₂_same]
  intro range member
  exact read_write (fit range member).1 (fit range member).2

theorem ofOutput_eq_ok_iff :
    ofOutput tool output = .ok ranges ↔ (Text.words output).mapM read = .ok ranges := by
  unfold ofOutput readAll
  cases (Text.words output).mapM read with
  | error cause => simp
  | ok found => simp

theorem ofOutput_eq_error_iff :
    ofOutput tool output = .error failure ↔
      ∃ cause, (Text.words output).mapM read = .error cause ∧
        failure = .malformed tool (.lineRange cause) := by
  unfold ofOutput readAll
  cases (Text.words output).mapM read with
  | error cause => simp [eq_comm]
  | ok found => simp

theorem ofOutput_eq_ok_iff_isToken :
    ofOutput tool output = .ok ranges ↔
      ∃ tokens, Text.Spaced tokens output ∧ List.Forall₂ IsToken tokens ranges := by
  simp only [ofOutput_eq_ok_iff, mapM_eq_ok_iff, read_eq_ok_iff, ← Text.words_eq_iff,
    exists_eq_left']

/-- The first token that is no range is reported. -/
theorem ofOutput_eq_error_iff_flaw :
    ofOutput tool output = .error failure ↔
      ∃ good bad rest cause, Text.Spaced (good ++ bad :: rest) output ∧
        (∀ token ∈ good, ∃ range, IsToken token range) ∧ Flaw bad cause ∧
        failure = .malformed tool (.lineRange cause) := by
  simp only [ofOutput_eq_error_iff, mapM_eq_error_iff, read_eq_ok_iff, read_eq_error_iff,
    Text.words_eq_iff]
  constructor
  · rintro ⟨cause, ⟨good, bad, rest, spaced, ranges, flaw⟩, reported⟩
    exact ⟨good, bad, rest, cause, spaced, ranges, flaw, reported⟩
  · rintro ⟨good, bad, rest, cause, spaced, ranges, flaw, reported⟩
    exact ⟨cause, ⟨good, bad, rest, spaced, ranges, flaw⟩, reported⟩

theorem fits_of_ofOutput (found : ofOutput tool output = .ok ranges) :
    ∀ range ∈ ranges, range.start < UInt64.size ∧ range.stop < UInt64.size := by
  rcases ofOutput_eq_ok_iff_isToken.mp found with ⟨tokens, -, areTokens⟩
  clear found
  induction areTokens with
  | nil => simp
  | cons isToken _ inductionHypothesis =>
      exact List.forall_mem_cons.mpr ⟨isToken.fits, inductionHypothesis⟩

end

end LineRange

/-! ## Arguments -/

namespace ClangFormat

variable {argument : Text} {style : Style} {ranges : List LineRange} {cursor : Nat}

/-- How the arguments begin that stand beside a restriction. -/
def plainNames : List Text :=
  ["--output-replacements-xml".toList, "--style=".toList, "--fallback-style=".toList,
    "--assume-filename=".toList, "--cursor=".toList]

theorem not_isPrefix_of_parted {mark name : Text}
    (parted : ¬ mark <+: name ∧ ¬ name <+: mark) (named : name <+: argument) :
    ¬ mark <+: argument := by
  intro marked
  rcases List.prefix_or_prefix_of_prefix marked named with shorter | longer
  · exact parted.1 shorter
  · exact parted.2 longer

theorem plainNames_parted :
    ∀ name ∈ plainNames, ∀ mark ∈ ["--lines=".toList, "--offset".toList, "--length".toList],
      ¬ mark <+: name ∧ ¬ name <+: mark := by
  decide

theorem arguments_lines (style : Style) (ranges : List LineRange) (cursor : Nat) :
    ∃ front back, arguments ⟨style, .lines ranges, cursor⟩ =
        front ++ ranges.map (fun range => "--lines=".toList ++ range.write) ++ back ∧
      ∀ argument ∈ front ++ back, ∃ name ∈ plainNames, name <+: argument := by
  refine ⟨_, _, rfl, ?_⟩
  intro argument member
  simp only [List.mem_append, List.mem_cons, Option.mem_toList, Option.map_eq_some_iff,
    List.not_mem_nil, or_false] at member
  rcases member with (((rfl | ⟨name, -, rfl⟩) | ⟨name, -, rfl⟩) | ⟨path, -, rfl⟩) | rfl
  · exact ⟨"--output-replacements-xml".toList, by simp [plainNames], List.prefix_rfl⟩
  · exact ⟨"--style=".toList, by simp [plainNames], List.prefix_append _ _⟩
  · exact ⟨"--fallback-style=".toList, by simp [plainNames], List.prefix_append _ _⟩
  · exact ⟨"--assume-filename=".toList, by simp [plainNames], List.prefix_append _ _⟩
  · exact ⟨"--cursor=".toList, by simp [plainNames], List.prefix_append _ _⟩

/-- What stands behind `--lines=` in the arguments that begin so. -/
def lineValues (arguments : List Text) : List Text :=
  arguments.filterMap (Text.Scan.dropMark "--lines=".toList)

theorem lineValues_eq_nil {arguments : List Text}
    (unmarked : ∀ argument ∈ arguments, ¬ "--lines=".toList <+: argument) :
    lineValues arguments = [] := by
  refine List.filterMap_eq_nil_iff.mpr fun argument member => ?_
  rw [Option.eq_none_iff_forall_ne_some]
  intro value found
  rw [Text.Scan.dropMark_eq_some_iff] at found
  exact unmarked argument member ⟨value, found.symm⟩

theorem lineValues_append (front back : List Text) :
    lineValues (front ++ back) = lineValues front ++ lineValues back :=
  List.filterMap_append

theorem lineValues_map_write :
    lineValues (ranges.map fun range => "--lines=".toList ++ range.write) =
      ranges.map LineRange.write := by
  unfold lineValues
  rw [List.filterMap_map]
  have found : Text.Scan.dropMark "--lines=".toList ∘
        (fun range : LineRange => "--lines=".toList ++ range.write) =
      some ∘ LineRange.write :=
    funext fun range => Text.Scan.dropMark_append _ _
  rw [found, List.filterMap_eq_map]

/-- Each range stands in an argument of its own. -/
theorem lineValues_arguments :
    lineValues (arguments ⟨style, .lines ranges, cursor⟩) = ranges.map LineRange.write := by
  rcases arguments_lines style ranges cursor with ⟨front, back, split, named⟩
  have unmarked : ∀ argument ∈ front ++ back, ¬ "--lines=".toList <+: argument := by
    intro argument member
    rcases named argument member with ⟨name, plain, named⟩
    exact not_isPrefix_of_parted (plainNames_parted name plain _ (by simp)) named
  have frontless : lineValues front = [] :=
    lineValues_eq_nil fun argument member => unmarked argument (List.mem_append_left _ member)
  have backless : lineValues back = [] :=
    lineValues_eq_nil fun argument member => unmarked argument (List.mem_append_right _ member)
  rw [split, lineValues_append, lineValues_append, frontless, backless, lineValues_map_write,
    List.append_nil, List.nil_append]

/-- Where lines are asked for, no argument says anything of bytes. -/
theorem not_isPrefix_arguments {mark : Text}
    (ofBytes : mark ∈ ["--offset".toList, "--length".toList])
    (member : argument ∈ arguments ⟨style, .lines ranges, cursor⟩) : ¬ mark <+: argument := by
  rcases arguments_lines style ranges cursor with ⟨front, back, split, named⟩
  rw [split, List.mem_append, List.mem_append, or_right_comm, ← List.mem_append] at member
  rcases member with beside | between
  · rcases named argument beside with ⟨name, plain, named⟩
    exact not_isPrefix_of_parted
      (plainNames_parted name plain mark (List.mem_cons_of_mem _ ofBytes)) named
  · rcases List.mem_map.mp between with ⟨range, -, rfl⟩
    have parted : ∀ mark ∈ ["--offset".toList, "--length".toList],
        ¬ mark <+: "--lines=".toList ∧ ¬ "--lines=".toList <+: mark := by
      decide
    exact not_isPrefix_of_parted (parted mark ofBytes) (List.prefix_append _ _)

end ClangFormat

namespace LineRange

/-- Ranges come from the output of one tool to the arguments of another one as they stand. Ranges
written between blanks are read back. Just the outputs are read whose tokens are ranges, and of any
other one the first token that is none is reported. Of ranges that are read, if there are any, each
one comes in an argument of its own, in order, beside none that names bytes, and reads back from
there. -/
theorem ranges_travel_verbatim (tool : Text) :
    (∀ ranges output,
      (∀ range ∈ ranges, range.start < UInt64.size ∧ range.stop < UInt64.size) →
      Text.Spaced (ranges.map write) output → ofOutput tool output = .ok ranges) ∧
    (∀ output ranges, ofOutput tool output = .ok ranges ↔
      ∃ tokens, Text.Spaced tokens output ∧ List.Forall₂ IsToken tokens ranges) ∧
    (∀ output failure, ofOutput tool output = .error failure ↔
      ∃ good bad rest cause, Text.Spaced (good ++ bad :: rest) output ∧
        (∀ token ∈ good, ∃ range, IsToken token range) ∧ Flaw bad cause ∧
        failure = .malformed tool (.lineRange cause)) ∧
    ∀ output ranges, ofOutput tool output = .ok ranges → ranges ≠ [] →
      ∃ restriction, Restriction.ofChangedLines? ranges = some restriction ∧
        ∀ style cursor, let arguments := ClangFormat.arguments ⟨style, restriction, cursor⟩
          ClangFormat.lineValues arguments = ranges.map write ∧
          (∀ argument ∈ arguments,
            ¬ "--offset".toList <+: argument ∧ ¬ "--length".toList <+: argument) ∧
          (ClangFormat.lineValues arguments).mapM read = .ok ranges := by
  refine ⟨?_, ?_, ?_, ?_⟩
  · intro ranges output fit spaced
    rw [ofOutput_eq_ok_iff, spaced.words_eq]
    exact mapM_read_write fit
  · intro output ranges
    exact ofOutput_eq_ok_iff_isToken
  · intro output failure
    exact ofOutput_eq_error_iff_flaw
  · intro output ranges found nonempty
    refine ⟨.lines ranges, by simp [Restriction.ofChangedLines?, nonempty], ?_⟩
    intro style cursor
    refine ⟨ClangFormat.lineValues_arguments, ?_, ?_⟩
    · intro argument member
      exact ⟨ClangFormat.not_isPrefix_arguments (by simp) member,
        ClangFormat.not_isPrefix_arguments (by simp) member⟩
    · rw [ClangFormat.lineValues_arguments]
      exact mapM_read_write (fits_of_ofOutput found)

/-- Ranges the wrong way round, twice the same, and up to the last number of 64 bits, between blanks
of several kinds; the same with signs and zeros in front; and a token with a second colon. -/
theorem ranges_travel_verbatim_reversed :
    ofOutput "diff".toList "\t5:2 5:2\n\u20030:18446744073709551615".toList =
        .ok [⟨5, 2⟩, ⟨5, 2⟩, ⟨0, 18446744073709551615⟩] ∧
      ofOutput "diff".toList "+5:02\u30005:+2  ".toList = .ok [⟨5, 2⟩, ⟨5, 2⟩] ∧
      ofOutput "diff".toList "5:2 5:2:1 x".toList =
        .error (.malformed "diff".toList (.lineRange (.stop "5:2:1".toList))) ∧
      ∃ restriction, Restriction.ofChangedLines? [⟨5, 2⟩, ⟨5, 2⟩] = some restriction ∧
        (ClangFormat.lineValues
          (ClangFormat.arguments ⟨⟨some "file".toList, none, none⟩, restriction, 7⟩)).mapM read =
            .ok [⟨5, 2⟩, ⟨5, 2⟩] := by
  rcases ranges_travel_verbatim "diff".toList with ⟨written, readable, malformed, arrive⟩
  have second : ofOutput "diff".toList "+5:02\u30005:+2  ".toList = .ok [⟨5, 2⟩, ⟨5, 2⟩] := by
    refine (readable _ _).mpr ⟨["+5:02".toList, "5:+2".toList], ?_, ?_⟩
    · exact Text.words_eq_iff.mp (by decide +kernel)
    · exact .cons (read_eq_ok_iff.mp (by decide +kernel))
        (.cons (read_eq_ok_iff.mp (by decide +kernel)) .nil)
  refine ⟨?_, second, ?_, ?_⟩
  · refine written _ _ (by decide) ?_
    exact Text.words_eq_iff.mp (by decide +kernel)
  · refine (malformed _ _).mpr ⟨["5:2".toList], "5:2:1".toList, ["x".toList], _, ?_, ?_, ?_, rfl⟩
    · exact Text.words_eq_iff.mp (by decide +kernel)
    · intro token member
      rcases List.mem_singleton.mp member with rfl
      exact ⟨⟨5, 2⟩, read_eq_ok_iff.mp (by decide +kernel)⟩
    · exact read_eq_error_iff.mp (by decide +kernel)
  · rcases arrive _ _ second (List.cons_ne_nil _ _) with ⟨restriction, restricted, passed⟩
    exact ⟨restriction, restricted, (passed _ _).2.2⟩

end LineRange

end Reformat
