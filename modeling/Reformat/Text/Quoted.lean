import Reformat.Text.Hidden
import Reformat.Text.Utf8

/-!
Text in double quotes, as messages show it: quotes, backslashes and hidden characters are written as
escapes, so that what is shown is on one line and names every character.
-/

namespace Reformat.Text.Quoted

def quoteChar (c : Char) : Text :=
  if c = '"' then "\\\"".toList
  else if c = '\\' then "\\\\".toList
  else if c = '\n' then "\\n".toList
  else if c = '\r' then "\\r".toList
  else if c = '\t' then "\\t".toList
  else if c.toNat = 0 then "\\0".toList
  else if isHidden c then "\\u\x7b".toList ++ Nat.toDigits 16 c.toNat ++ "\x7d".toList
  else [c]

def quote (text : Text) : Text :=
  '"' :: text.flatMap quoteChar ++ ['"']

end Reformat.Text.Quoted
