import Reformat.Edit.Basic
import Reformat.Text.Decimal

/-!
Writing a batch as a formatter reports it. An element may be spelled in several ways, which all mean
the same.
-/

namespace Reformat.Replacements

/-- How one element is spelled. -/
structure Spelling where
  lengthFirst : Bool
  offsetDoubleQuoted : Bool
  lengthDoubleQuoted : Bool
  /-- Whether an element without text is written as a single tag. -/
  selfClosing : Bool
deriving DecidableEq, Repr

def escapeChar (c : Char) : Text :=
  if c = '&' then "&amp;".toList
  else if c = '<' then "&lt;".toList
  else if c = '\n' then "&#10;".toList
  else if c = '\r' then "&#13;".toList
  else [c]

def escape (text : Text) : Text :=
  text.flatMap escapeChar

def renderAttribute (doubleQuoted : Bool) (name value : Text) : Text :=
  let mark := if doubleQuoted then '"' else '\''
  ' ' :: name ++ '=' :: mark :: value ++ [mark]

def renderAttributes (spelling : Spelling) (edit : Edit) : Text :=
  let offset :=
    renderAttribute spelling.offsetDoubleQuoted "offset".toList (Text.Decimal.write edit.offset)
  let length :=
    renderAttribute spelling.lengthDoubleQuoted "length".toList (Text.Decimal.write edit.length)
  if spelling.lengthFirst then length ++ offset else offset ++ length

def renderElement (spelling : Spelling) (edit : Edit) : Text :=
  "<replacement".toList ++ renderAttributes spelling edit ++
    if edit.inserted.isEmpty && spelling.selfClosing then
      "/>".toList
    else
      '>' :: escape edit.inserted ++ "</replacement>".toList

/-- Elements on lines of their own, spelled one by one. -/
def renderElements (spelling : Nat → Spelling) : List Edit → Text
  | [] => []
  | edit :: rest =>
      renderElement (spelling 0) edit ++ '\n' ::
        renderElements (fun index => spelling (index + 1)) rest

def renderCursor : Option Nat → Text
  | none => []
  | some offset => "<cursor>".toList ++ Text.Decimal.write offset ++ "</cursor>\n".toList

def renderRoot (incomplete : Bool) : Text :=
  "<replacements".toList ++
    renderAttribute false "xml:space".toList "preserve".toList ++
    renderAttribute false "incomplete_format".toList
      (if incomplete then "true".toList else "false".toList) ++
    ['>']

/-- The report up to the end tag of the root. -/
def renderOpen (spelling : Nat → Spelling) (batch : Batch) : Text :=
  "<?xml version='1.0'?>\n".toList ++ renderRoot batch.incomplete ++
    '\n' :: renderCursor batch.cursor ++ renderElements spelling batch.edits

def render (spelling : Nat → Spelling) (batch : Batch) : Text :=
  renderOpen spelling batch ++ "</replacements>\n".toList

/-- The edit with nothing to insert written as no text. -/
def normalizeEdit (edit : Edit) : Edit :=
  { edit with text := edit.text.filter (!·.isEmpty) }

def normalize (batch : Batch) : Batch :=
  { batch with edits := batch.edits.map normalizeEdit }

end Reformat.Replacements
