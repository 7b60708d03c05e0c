import Reformat.Shell.Source

/-!
The tokens of a script: words, operators, line ends, and redirections with the documents that follow
them. Quotes are resolved here, and the pieces of a word are told apart. How the commands inside a
word are read is given.
-/

namespace Reformat.Shell

/-- What surrounds the pieces at hand, and so ends them. -/
inductive Region where
  | word
  /-- A word in which dollar signs and backquotes stand for themselves. -/
  | delimiter
  /-- Double quotes in such a word. -/
  | bareDouble
  /-- Double quotes, which may stand in the braces of a parameter. -/
  | double (inBraces : Bool)
  | braces (quoted : Bool)
  | document
  /-- Arithmetic, with a number of parentheses that are open in it. -/
  | arithmetic (depth : Nat)
deriving DecidableEq, Repr

/-- Whether a character has no meaning of its own in any region. -/
def isPlain (c : Char) : Bool :=
  c.isAlphanum || c ∈ ['_', '.', ',', '-', '+', '/', '%', '=']

def isMeta (c : Char) : Bool :=
  c ∈ [' ', '\t', '\n', ';', '&', '|', '<', '>', '(', ')']

namespace Region

def isWord (region : Region) : Bool :=
  region = word || region = delimiter

def quoted : Region → Bool
  | word => false
  | delimiter => false
  | bareDouble => true
  | double _ => true
  | braces quoted => quoted
  | document => true
  | arithmetic _ => true

/-- Whether a backslash takes the meaning from a character where it does not do so from all. -/
def escapes (region : Region) (inDocument : Bool) (c : Char) : Bool :=
  let inBraces :=
    match region with
    | double inBraces => inBraces
    | braces _ => true
    | _ => false
  c ∈ ['$', '\x60', '\\'] || (c == '"' && (inBraces || !inDocument)) || (c == '\x7d' && inBraces)

/-- What is missing where a region has no end. -/
def lack (inDocument : Bool) : Region → Option String
  | word => none
  | delimiter => none
  | document => none
  | arithmetic _ => some "Missing '))'"
  | braces false => some "Missing '\x7d'"
  | _ => some (if inDocument then "Missing '\x7d'" else "Unterminated quoted string")

end Region

/-- Adds text to pieces, of which the last one stands first. -/
def addText (pieces : List Part) (more : Text) (quoted : Bool) : List Part :=
  match pieces with
  | .text value same :: rest =>
      if same = quoted then
        .text (value ++ more) quoted :: rest
      else
        .text more quoted :: pieces
  | _ => .text more quoted :: pieces

def isSpecialName (c : Char) : Bool :=
  c ∈ ['@', '*', '#', '?', '-', '$', '!']

def Modifier.isTrim : Modifier → Bool
  | .trimFront _ => true
  | .trimBack _ => true
  | _ => false

namespace Reader

/-! ## Documents -/

/-- Ends the document at hand if the line at hand is its delimiter. -/
def closeDocument (announced : Announced) : Reader Unit :=
  modify fun source =>
    let (rest, line) :=
      if announced.literal then (source.rest, source.line) else joined source.line source.rest
    let rest := if announced.withoutTabs then rest.dropWhile (· = '\t') else rest
    if rest.takeWhile (· ≠ '\n') == announced.delimiter then
      { source with
        rest := (rest.dropWhile (· ≠ '\n')).drop 1, line := line + 1, closed := true }
    else
      { source with rest := rest, line := line }

/-- The lines up to the delimiter as they are. -/
def literalLines (announced : Announced) : Nat → Reader Text
  | 0 => return []
  | fuel + 1 => do
      closeDocument announced
      let source ← get
      if source.closed || source.rest.isEmpty then
        return []
      let own := source.rest.takeWhile (· ≠ '\n')
      let behind := source.rest.drop own.length
      set { source with rest := behind.drop 1, line := source.line + (behind.take 1).length }
      return own ++ behind.take 1 ++ (← literalLines announced fuel)

/-- The end of a line that is not joined with the next one, although a backslash stands in front of
it: there are only tabs before the two, which are not part of the document. -/
def keptEnd (announced : Announced) : Reader Text := do
  let source ← get
  match source.rest with
  | '\\' :: '\n' :: rest =>
      if announced.withoutTabs then
        set { source with rest := rest }
        return ['\\', '\n']
      else
        return []
  | _ => return []

/-- The text with which the document at hand goes on where a line of it begins, if that cannot be
read like the text behind it. -/
def lineStart (announced : Announced) : Reader Text := do
  closeDocument announced
  if (← get).closed then return [] else keptEnd announced

/-- Goes on behind the end of a line, on which the document at hand may end. -/
def passLine (document : Option Announced) : Reader Text := do
  nextLine
  match document with
  | none => return []
  | some announced => lineStart announced

/-! ## Pieces of words -/

/-- What stands in single quotes, behind the first of them. -/
def single : Reader Text := do
  let source ← get
  let inside := source.rest.takeWhile (· ≠ '\'')
  let line := source.line + inside.count '\n'
  set { source with rest := source.rest.drop (inside.length + 1), line := line }
  if source.rest.length = inside.length then
    misread "Unterminated quoted string".toList
  return inside

/-- What stands in backquotes, behind the first of them. -/
def backquoted (quoted : Bool) : Nat → Reader Text
  | 0 => return []
  | fuel + 1 => do
      match ← peek with
      | none => misread "EOF in backquote substitution".toList
      | some '\x60' =>
          drop
          return []
      | some '\\' =>
          drop
          match (← get).rest with
          | [] => misread "EOF in backquote substitution".toList
          | c :: _ =>
              drop
              let bare := c ∈ ['$', '\x60', '\\'] || (quoted && c == '"')
              let more ← backquoted quoted fuel
              return if bare then c :: more else '\\' :: c :: more
      | some c =>
          drop
          if c = '\n' then
            nextLine
          return c :: (← backquoted quoted fuel)

/-- What is to be made of a parameter, given the character behind its name, and whether a word
belongs to it. -/
def modifier (c : Option Char) : Reader (Modifier × Bool) := do
  let ofSign (orEmpty : Bool) (c : Option Char) : Modifier × Bool :=
    match c with
    | some '-' => (.fallback orEmpty, true)
    | some '=' => (.assign orEmpty, true)
    | some '?' => (.demand orEmpty, true)
    | some '+' => (.alternative orEmpty, true)
    | some '\x7d' => (.plain, orEmpty)
    | _ => (.invalid, true)
  match c with
  | some ':' =>
      let sign ← peek
      drop
      return ofSign true sign
  | some '%' => return (.trimBack (← dropIf '%'), true)
  | some '#' => return (.trimFront (← dropIf '#'), true)
  | _ => return ofSign false c

/-- A parameter in braces, behind the first one: its name, what is to be made of it, and whether a
word belongs to it. -/
def braced (fuel : Nat) : Reader (Text × Modifier × Bool) := do
  let modified (name : Text) (c : Option Char) : Reader (Text × Modifier × Bool) := do
    return (name, ← modifier c)
  let named (name : Text) : Reader (Text × Modifier × Bool) := do
    let c ← peek
    drop
    modified name c
  let bad : Text × Modifier × Bool := ([], .invalid, true)
  let spanName (c : Char) : Reader Text :=
    span (if isNameStart c then isNameChar else Char.isDigit) fuel
  match ← peek with
  | none => return bad
  | some '\x7d' => return bad
  | some c =>
      if isNameStart c || c.isDigit then
        named (← spanName c)
      else
        drop
        if c = '#' then
          match ← peek with
          | none => return bad
          | some next =>
              if isNameStart next || next.isDigit then
                let name ← spanName next
                return if (← peek) = some '\x7d' then (name, .length, true) else bad
              drop
              if next = '\x7d' || (← peek) ≠ some '\x7d' then
                modified ['#'] (some next)
              else
                return if isSpecialName next then ([next], .length, true) else bad
        else if isSpecialName c then
          named [c]
        else
          return bad

mutual

/-- The pieces up to the end of a region. -/
def parts (script : Reader Command) (document : Option Announced) :
    Nat → Region → List Part → Reader (List Part)
  | 0, _, pieces => return pieces.reverse
  | fuel + 1, region, pieces => do
      let quoted := region.quoted
      match ← peek with
      | none =>
          match region.lack document.isSome with
          | some message => misread message.toList
          | none => return pieces.reverse
      | some c =>
          if region.isWord && isMeta c then
            return pieces.reverse
          drop
          match region, c with
          | .double _, '"' => return pieces.reverse
          | .bareDouble, '"' => return pieces.reverse
          | .braces _, '\x7d' => return pieces.reverse
          | .arithmetic depth, '(' =>
              parts script document fuel (.arithmetic (depth + 1)) (addText pieces [c] true)
          | .arithmetic (depth + 1), ')' =>
              parts script document fuel (.arithmetic depth) (addText pieces [c] true)
          | .arithmetic 0, ')' =>
              if ← dropIf ')' then
                return pieces.reverse
              parts script document fuel region (addText pieces [c] true)
          | _, '\n' =>
              let start ← passLine document
              parts script document fuel region (addText pieces (c :: start) quoted)
          | _, '\\' =>
              match (← get).rest with
              | [] => parts script document fuel region (addText pieces [c] true)
              | next :: _ =>
                  drop
                  let bare := !quoted || region.escapes document.isSome next
                  let text := if bare then [next] else ['\\', next]
                  parts script document fuel region (addText pieces text true)
          | _, '\'' =>
              if quoted then
                parts script document fuel region (addText pieces [c] true)
              else
                let inside ← single
                parts script document fuel region (addText pieces inside true)
          | _, '"' =>
              if region = .document || (region matches .arithmetic _) then
                parts script document fuel region (addText pieces [c] true)
              else
                let inner : Region :=
                  if region = .delimiter then .bareDouble else .double (region matches .braces _)
                let inside ← parts script document fuel inner []
                let pieces :=
                  if inside.isEmpty then addText pieces [] true else inside.reverse ++ pieces
                parts script document fuel region pieces
          | .delimiter, '$' => parts script document fuel region (addText pieces [c] false)
          | .delimiter, '\x60' => parts script document fuel region (addText pieces [c] false)
          | .bareDouble, '$' => parts script document fuel region (addText pieces [c] true)
          | .bareDouble, '\x60' => parts script document fuel region (addText pieces [c] true)
          | _, '$' =>
              match ← dollar script document fuel quoted with
              | none => parts script document fuel region (addText pieces [c] quoted)
              | some piece => parts script document fuel region (piece :: pieces)
          | _, '\x60' =>
              let text ← backquoted quoted fuel
              let body ← within text script
              parts script document fuel region (.output body quoted :: pieces)
          | _, _ =>
              let run := (← get).rest.takeWhile isPlain
              modify fun source => { source with rest := source.rest.drop run.length }
              parts script document fuel region (addText pieces (c :: run) quoted)

/-- The piece that a dollar sign begins, if it begins one. -/
def dollar (script : Reader Command) (document : Option Announced) :
    Nat → Bool → Reader (Option Part)
  | 0, _ => return none
  | fuel + 1, quoted => do
      match ← peek with
      | some '(' =>
          drop
          if ← dropIf '(' then
            return some (.arithmetic (← parts script document fuel (.arithmetic 0) []) quoted)
          let announced := (← get).announced
          modify fun source => { source with announced := [] }
          let body ← script
          match ← takeHeld with
          | .operator [')'] =>
              modify fun source => { source with announced := announced }
              return some (.output body quoted)
          | token => refuse token (some (quotedName [')']))
      | some '\x7b' =>
          drop
          let (name, modifier, hasWord) ← braced fuel
          let region : Region := .braces (quoted && !modifier.isTrim)
          let argument ← if hasWord then parts script document fuel region [] else pure []
          return some (.parameter name modifier argument quoted)
      | some c =>
          if isNameStart c then
            return some (.parameter (← span isNameChar fuel) .plain [] quoted)
          if c.isDigit || isSpecialName c then
            drop
            return some (.parameter [c] .plain [] quoted)
          return none
      | none => return none

end

/-- The documents that were announced on a line. -/
def readDocuments (script : Reader Command) (fuel : Nat) : Reader Unit := do
  let announced := (← get).announced
  modify fun source => { source with announced := [] }
  announced.forM fun announced => do
    let body ←
      if announced.literal then do
        pure [.text (← literalLines announced fuel) true]
      else do
        let start ← lineStart announced
        parts script (some announced) fuel .document (addText [] start true)
    modify fun source =>
      { source with
        closed := false, documents := (announced.number, body) :: source.documents }

/-! ## Tokens -/

/-- A redirection, behind its descriptor. -/
def redirection (descriptor : Option Nat) : Reader Token := do
  if ← dropIf '>' then
    for (mark, text) in [('>', ">>"), ('|', ">|"), ('&', ">&")] do
      if ← dropIf mark then
        return .redirection descriptor text.toList
    return .redirection descriptor ['>']
  else
    drop
    if ← dropIf '<' then
      return .redirection descriptor (if ← dropIf '-' then "<<-" else "<<").toList
    for (mark, text) in [('&', "<&"), ('>', "<>")] do
      if ← dropIf mark then
        return .redirection descriptor text.toList
    return .redirection descriptor ['<']

/-- A word, or the redirection that begins with it. -/
def wordToken (script : Reader Command) (fuel : Nat) (region : Region) : Reader Token := do
  let parts ← parts script none fuel region []
  let next ← peek
  if next ≠ some '<' && next ≠ some '>' then
    return .word parts
  match parts with
  | [] => redirection none
  | [.text [c] false] =>
      if c.isDigit then redirection (some (c.toNat - '0'.toNat)) else return .word parts
  | _ => return .word parts

/-- Skips what is left of a line. -/
def skipComment : Reader Unit :=
  modify fun source => { source with rest := source.rest.dropWhile (· ≠ '\n') }

/-- The token that comes next in the text. -/
def token (script : Reader Command) (region : Region) : Nat → Reader Token
  | 0 => return .finish
  | fuel + 1 => do
      match ← peek with
      | none => return .finish
      | some ' ' =>
          drop
          token script region fuel
      | some '\t' =>
          drop
          token script region fuel
      | some '#' =>
          skipComment
          token script region fuel
      | some '\n' =>
          drop
          nextLine
          return .newline
      | some c =>
          if c ∈ ['&', '|', ';'] then
            drop
            return .operator (if ← dropIf c then [c, c] else [c])
          if c = '(' || c = ')' then
            drop
            return .operator [c]
          wordToken script fuel region

end Reader

/-- The text of pieces that stand for themselves. -/
def plainText (parts : List Part) : Text :=
  parts.flatMap fun part =>
    match part with
    | .text value _ => value
    | _ => []

/-- Whether any piece is in quotes. -/
def isQuoted (parts : List Part) : Bool :=
  parts.any fun part =>
    match part with
    | .text _ quoted => quoted
    | _ => false

end Reformat.Shell
