import Reformat.Files.Path

/-!
Which style a formatter is to use.
-/

namespace Reformat

structure Style where
  /-- A style's name, or `file`; the formatter's own default if absent. -/
  name : Option Text
  /-- The style for when `file` finds no style file. -/
  fallback : Option Text
  /-- The name under which the style is looked for and the language is chosen. -/
  assumeFilename : Option Path
deriving DecidableEq, Repr

/-- The style with the path of the document as its file name, where it has none. -/
def Style.withDefaultFilename (style : Style) (path : Path) : Style :=
  { style with assumeFilename := style.assumeFilename.or (some path) }

end Reformat
