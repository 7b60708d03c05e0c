import Reformat.Format.Collaborator
import Reformat.Tool.Output

/-!
The formatter `clang-format`: its arguments, and its report of replacements.
-/

namespace Reformat

structure ClangFormat where
  program : Path

namespace ClangFormat

def tool : Text :=
  "clang-format".toList

def standard : ClangFormat :=
  ⟨tool⟩

def restrictionArguments : Restriction → List Text
  | .bytes offset length =>
      ["--offset=".toList ++ Text.Decimal.write offset,
        "--length=".toList ++ Text.Decimal.write length]
  | .lines ranges => ranges.map fun range => "--lines=".toList ++ range.write

def arguments (request : Request) : List Text :=
  "--output-replacements-xml".toList ::
    (request.style.name.map ("--style=".toList ++ ·)).toList ++
    (request.style.fallback.map ("--fallback-style=".toList ++ ·)).toList ++
    (request.style.assumeFilename.map ("--assume-filename=".toList ++ ·)).toList ++
    restrictionArguments request.restriction ++
    ["--cursor=".toList ++ Text.Decimal.write request.cursor]

def formatter {m : Type → Type} [Monad m] (format : ClangFormat) (launch : Launcher m) :
    Formatter m := fun content request => do
  let completion ← launch.run tool [0] {
    program := format.program
    arguments := arguments request
    snapshots := []
    input := some content
    directory := ['.'] }
  let output ← MonadExcept.ofExcept (completion.text tool)
  MonadExcept.ofExcept (Replacements.ofOutput tool output)

end ClangFormat

end Reformat
