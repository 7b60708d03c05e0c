import Reformat.Text.Utf8

/-!
Patterns of names: `*` for any text, `?` for any character, and sets of characters in brackets.
-/

namespace Reformat.Shell

inductive Pattern.Item where
  | exactly (c : Char)
  | any
  | many
  /-- One of the ranges, or none of them where `negated` is set. -/
  | set (negated : Bool) (ranges : List (Char × Char))
deriving DecidableEq, Repr

abbrev Pattern := List Pattern.Item

namespace Pattern

/-- The place of a character in ranges, in which those that are not plain come first. -/
def rank (c : Char) : Int :=
  if c.toNat < 128 then c.toNat else c.toNat - 256

def Item.admits (item : Item) (c : Char) : Bool :=
  match item with
  | exactly only => c == only
  | any => true
  | many => false
  | set negated ranges =>
      (ranges.any fun (low, high) => rank low ≤ rank c && rank c ≤ rank high) != negated

def accepts : Pattern → Text → Bool
  | [], text => text.isEmpty
  | .many :: rest, [] => accepts rest []
  | .many :: rest, c :: text => accepts rest (c :: text) || accepts (.many :: rest) text
  | _ :: _, [] => false
  | item :: rest, c :: text => item.admits c && accepts rest text
termination_by pattern text => pattern.length + text.length

/-- The named classes of characters. -/
def namedRanges? (name : Text) : Option (List (Char × Char)) :=
  match String.ofList name with
  | "digit" => some [('0', '9')]
  | "lower" => some [('a', 'z')]
  | "upper" => some [('A', 'Z')]
  | "alpha" => some [('a', 'z'), ('A', 'Z')]
  | "alnum" => some [('a', 'z'), ('A', 'Z'), ('0', '9')]
  | "xdigit" => some [('a', 'f'), ('A', 'F'), ('0', '9')]
  | "space" => some [('\t', '\x0D'), (' ', ' ')]
  | "blank" => some [('\t', '\t'), (' ', ' ')]
  | "punct" => some [('!', '/'), (':', '@'), ('[', '\x60'), ('\x7b', '~')]
  | "print" => some [(' ', '~')]
  | "graph" => some [('!', '~')]
  | "cntrl" => some [('\x00', '\x1F'), ('\x7F', '\x7F')]
  | _ => none

/-- The class that is named behind a bracket, and what follows the name. -/
def named? (text : List (Char × Bool)) : Option (List (Char × Char) × List (Char × Bool)) :=
  match text with
  | (':', false) :: rest =>
      let name := rest.takeWhile fun (c, quoted) => c ≠ ':' && !quoted
      match rest.drop name.length with
      | (':', false) :: (']', false) :: more =>
          (namedRanges? (name.map Prod.fst)).map fun ranges => (ranges, more)
      | _ => none
  | _ => none

/-- The ranges of a set up to the bracket that ends it, and what follows. Characters are given with
whether they are quoted; `started` tells whether the set has a member already. -/
def ranges (started : Bool) :
    Nat → List (Char × Bool) → Option (List (Char × Char) × List (Char × Bool))
  | 0, _ => none
  | _ + 1, [] => none
  | fuel + 1, (c, quoted) :: rest =>
      if c = ']' ∧ !quoted ∧ started then
        some ([], rest)
      else
        match if c = '[' ∧ !quoted then named? rest else none with
        | some (own, more) =>
            (ranges true fuel more).map fun (others, rest) => (own ++ others, rest)
        | none =>
          match rest with
          | ('-', false) :: (last, lastQuoted) :: more =>
              if last = ']' ∧ !lastQuoted then
                (ranges true fuel rest).map fun (others, rest) => ((c, c) :: others, rest)
              else
                (ranges true fuel more).map fun (others, rest) => ((c, last) :: others, rest)
          | _ => (ranges true fuel rest).map fun (others, rest) => ((c, c) :: others, rest)

/-- A set behind the bracket that opens it, and what follows. -/
def set? (text : List (Char × Bool)) : Option (Item × List (Char × Bool)) :=
  let (negated, members) :=
    match text with
    | ('!', false) :: rest => (true, rest)
    | _ => (false, text)
  (ranges false (members.length + 1) members).map fun (ranges, rest) =>
    (.set negated ranges, rest)

def ofQuotedWithin : Nat → List (Char × Bool) → Pattern
  | 0, _ => []
  | _ + 1, [] => []
  | fuel + 1, (c, quoted) :: rest =>
      if quoted then
        .exactly c :: ofQuotedWithin fuel rest
      else if c = '*' then
        .many :: ofQuotedWithin fuel rest
      else if c = '?' then
        .any :: ofQuotedWithin fuel rest
      else if c = '[' then
        match set? rest with
        | some (item, rest) => item :: ofQuotedWithin fuel rest
        | none => .exactly c :: ofQuotedWithin fuel rest
      else
        .exactly c :: ofQuotedWithin fuel rest

/-- A text in which a backslash that is not quoted itself quotes what follows it. -/
def unescape : List (Char × Bool) → List (Char × Bool)
  | [] => []
  | [('\\', false)] => [('\\', true)]
  | ('\\', false) :: (c, _) :: rest => (c, true) :: unescape rest
  | marked :: rest => marked :: unescape rest

/-- The pattern of a text of which each character is given with whether it is quoted. -/
def ofQuoted (text : List (Char × Bool)) : Pattern :=
  let text := unescape text
  ofQuotedWithin (text.length + 1) text

/-- Whether the pattern can match anything but one text. -/
def isOpen (pattern : Pattern) : Bool :=
  pattern.any fun item => !(item matches .exactly _)

/-- What stands between values in one text. -/
def division : Char :=
  '\x00'

/-- The value at the front of a text of values. -/
def firstValue (text : Text) : Text :=
  text.takeWhile (· ≠ division)

/-- The first or the last of the places from zero up to a last one for which something holds. -/
def placeWith? (isFirst : Bool) (last : Nat) (holds : Nat → Bool) : Option Nat :=
  let places := List.range (last + 1)
  (if isFirst then places else places.reverse).find? holds

/-- The text without what the pattern matches at its front, as much or as little as possible. In a
text of values the first one of them has to match, and all of them may be taken away. -/
def trimFront (pattern : Pattern) (longest : Bool) (text : Text) : Text :=
  let stop := placeWith? (!longest) text.length fun stop =>
    pattern.accepts (firstValue (text.take stop))
  text.drop (stop.getD 0)

/-- The text without what the pattern matches at its end, as much or as little as possible. In a text
of values one has to match, the first one if it is to be as much as possible, and all behind it go
too. -/
def trimBack (pattern : Pattern) (longest : Bool) (text : Text) : Text :=
  let last := if longest then (firstValue text).length else text.length
  let start := placeWith? longest last fun start =>
    pattern.accepts (firstValue (text.drop start))
  text.take (start.getD text.length)

end Pattern

end Reformat.Shell
