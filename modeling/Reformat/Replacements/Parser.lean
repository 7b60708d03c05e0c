import Reformat.Edit.Basic
import Reformat.Text.Blank
import Reformat.Text.CharRef
import Reformat.Text.Decimal
import Reformat.Text.Quoted
import Reformat.Text.Scan
import Reformat.Text.Word

/-!
The report of a formatter: a `replacements` element that holds at most one `cursor` and any number
of `replacement` elements, each with an offset, a length and the escaped text to insert. Elements
are looked for one kind at a time, and an element that opens must be complete.
-/

namespace Reformat.Replacements

inductive Malformation where
  | noRoot
  | cursors
  | openCursor
  | cursor (value : Text)
  | noAttribute (name : Text)
  | number (name value : Text)
  | openReplacement
deriving DecidableEq, Repr

def Malformation.message : Malformation → Text
  | noRoot => "missing <replacements> element".toList
  | cursors => "more than one <cursor> element".toList
  | openCursor => "unterminated <cursor> element".toList
  | cursor value =>
      "cursor ".toList ++ Text.Quoted.quote value ++ " is not a byte offset".toList
  | noAttribute name => "<replacement> without ".toList ++ name
  | number name value =>
      "<replacement> ".toList ++ name ++ ' ' :: Text.Quoted.quote value ++
        " is not a number".toList
  | openReplacement =>
      "<replacement> element is unterminated or has more than one text child".toList

/-- The text behind `<name`, where the name ends there. -/
def opening? (name text : Text) : Option Text := do
  let rest ← Text.Scan.dropMark ('<' :: name) text
  if rest.head?.any Text.isWordChar then none else some rest

/-- A tag from the end of its name on. -/
structure Tag where
  inside : Text
  selfClosing : Bool
  /-- The text behind the tag. -/
  rest : Text

/-- The tag that the first `>` ends. -/
def Tag.read? (text : Text) : Option Tag :=
  let inside := text.takeWhile (· ≠ '>')
  match text.dropWhile (· ≠ '>') with
  | [] => none
  | _ :: rest =>
      if inside.getLast? = some '/' then
        some ⟨inside.dropLast, true, rest⟩
      else
        some ⟨inside, false, rest⟩

def isNameStart (c : Char) : Bool :=
  c.isAlpha || c == '_'

def isNameChar (c : Char) : Bool :=
  Text.isWordChar c || c == ':' || c == '.' || c == '-'

/-- A value in quotes, and the text behind it. -/
def quotedValue? : Text → Option (Text × Text)
  | [] => none
  | mark :: text =>
      if mark = '\'' ∨ mark = '"' then
        match text.dropWhile (· ≠ mark) with
        | [] => none
        | _ :: rest => some (text.takeWhile (· ≠ mark), rest)
      else
        none

/-- A name with its value at the front of a text, and the text behind it. -/
def attribute? : Text → Option ((Text × Text) × Text)
  | [] => none
  | c :: text => do
      if !isNameStart c then none
      let name := c :: text.takeWhile isNameChar
      let behindName := (text.dropWhile isNameChar).dropWhile Text.isBlank
      let behindSign ← Text.Scan.dropMark ['='] behindName
      let (value, rest) ← quotedValue? (behindSign.dropWhile Text.isBlank)
      return ((name, value), rest)

def attributes (inside : Text) : List (Text × Text) :=
  Text.Scan.all attribute? inside

/-- The value of the last attribute of a name. -/
def valueOf? (name : Text) (attributes : List (Text × Text)) : Option Text :=
  attributes.reverse.lookup name

/-- The root element, of which only the attribute that matters and the content are kept. -/
structure Root where
  incomplete : Bool
  body : Text

def Root.read? (output : Text) : Option Root := do
  let rest ← Text.Scan.first (opening? "replacements".toList) output
  let tag ← Tag.read? rest
  return {
    incomplete :=
      valueOf? "incomplete_format".toList (attributes tag.inside) = some "true".toList
    body := if tag.selfClosing then [] else tag.rest }

/-- The trimmed content of a `cursor` element at the front of a text. -/
def cursorValue? (text : Text) : Option Text := do
  let content ← Text.Scan.dropMark "<cursor>".toList text
  let _ ← Text.Scan.dropMark "</cursor>".toList (content.dropWhile (· ≠ '<'))
  return Text.trim (content.takeWhile (· ≠ '<'))

def cursor (body : Text) : Except Malformation (Option Nat) :=
  match Text.Scan.count (opening? "cursor".toList) body with
  | 0 => return none
  | 1 =>
      match Text.Scan.first cursorValue? body with
      | none => throw .openCursor
      | some value =>
          match Text.Decimal.read? value with
          | none => throw (.cursor value)
          | some offset => return some offset
  | _ => throw .cursors

/-- A `replacement` element: what its tag holds, and its content as it is written. -/
structure Element where
  inside : Text
  content : Text

/-- The element at the front of a text, and the text behind it. -/
def Element.read? (text : Text) : Option (Element × Text) := do
  let inside ← opening? "replacement".toList text
  let tag ← Tag.read? inside
  if tag.selfClosing then
    return (⟨tag.inside, []⟩, tag.rest)
  let closing ← Text.Scan.dropMark "</replacement".toList (tag.rest.dropWhile (· ≠ '<'))
  let rest ← Text.Scan.dropMark ['>'] (closing.dropWhile Text.isBlank)
  return (⟨tag.inside, tag.rest.takeWhile (· ≠ '<')⟩, rest)

def number (name : Text) (attributes : List (Text × Text)) : Except Malformation Nat :=
  match valueOf? name attributes with
  | none => throw (.noAttribute name)
  | some value =>
      match Text.Decimal.read? value with
      | none => throw (.number name value)
      | some number => return number

def Element.edit (element : Element) : Except Malformation Edit := do
  let given := attributes element.inside
  let offset ← number "offset".toList given
  let length ← number "length".toList given
  return {
    offset := offset
    length := length
    text := if element.content.isEmpty then none else some (Text.CharRef.decode element.content) }

def edits (body : Text) : Except Malformation (List Edit) := do
  let edits ← (Text.Scan.all Element.read? body).mapM Element.edit
  if edits.length = Text.Scan.count (opening? "replacement".toList) body then
    return edits
  else
    throw .openReplacement

/-- Reads a report. -/
def parse (output : Text) : Except Malformation Batch := do
  match Root.read? output with
  | none => throw .noRoot
  | some root =>
      let cursor ← cursor root.body
      let edits ← edits root.body
      return ⟨edits, cursor, root.incomplete⟩

end Reformat.Replacements
