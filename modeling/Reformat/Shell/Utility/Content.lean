import Reformat.Shell.Format
import Reformat.Shell.Pattern
import Reformat.Shell.Utility

/-!
Utilities that print words, and those that pass on, cut short, count or change what they read.
-/

namespace Reformat.Shell.Utility

open Effect

/-! ## Words -/

/-- Whether a word in front is an option of `echo`. -/
def isEchoOption : Text → Bool
  | '-' :: letter :: letters => (letter :: letters).all fun c => c ∈ ['n', 'e', 'E']
  | _ => false

/-- Prints words, with their escapes resolved only if that is asked for. -/
def echo : Utility := fun _ arguments => do
  let options := (arguments.takeWhile isEchoOption).flatten
  let text := [' '].intercalate (arguments.dropWhile isEchoOption)
  let isEscaping := options.reverse.find? (fun c => c = 'e' || c = 'E') == some 'e'
  let (shown, isStopped) := if isEscaping then Format.unescape text else (text, false)
  say (if isStopped || options.contains 'n' then shown else shown ++ ['\n'])
  return 0

/-- Prints words as the first of them says. -/
def printf : Utility := fun name arguments => do
  match arguments with
  | [] => misuse name "missing operand".toList
  | format :: arguments =>
      let printed := Format.print format arguments
      say printed.output
      let statuses ← printed.complaints.mapM (tell name)
      return statuses.foldl max 0

/-! ## Sources -/

def cat : Utility :=
  withGiven ['u'] [] fun name given =>
    eachOperand (sources given) fun source => do
      match ← contentOf source with
      | .ok text =>
          say text
          return 0
      | .error cause => tell name (shownName source ++ ": ".toList ++ reason cause)

/-! ## Beginnings -/

/-- So many lines at the front of a text. -/
def firstLines : Nat → Text → Text
  | 0, _ => []
  | _, [] => []
  | count + 1, c :: rest => c :: firstLines (if c = '\n' then count else count + 1) rest

/-- The arguments with a number alone, in front of the others, as the count of lines. -/
def spelledCount : List Text → List Text
  | ('-' :: digit :: digits) :: others =>
      if (digit :: digits).all Char.isDigit then
        ('-' :: 'n' :: digit :: digits) :: others
      else
        ('-' :: digit :: digits) :: others
  | arguments => arguments

/-- How much a pipe is read ahead. -/
def block : Nat :=
  8192

/-- The first part of a source. Input is left behind that part; what was read ahead of a pipe is
lost. -/
def partOf (part : Text → Text) (ahead : Nat) (source : Text) :
    Effect (Except SystemError Text) := do
  if source != ['-'] then
    return (textOf (← get) source).map part
  let (text, isSeekable) := (← pending? 0).getD ([], true)
  let own := part text
  advance 0 (if isSeekable then own.length else (own.length + ahead - 1) / ahead * ahead)
  return .ok own

/-- Prints parts of sources, each of them under a heading unless there is only one. -/
def printParts (name : Text) (part : Text → Text) (ahead : Nat) (isHeaded : Bool) :
    Bool → List Text → Effect Nat
  | _, [] => return 0
  | isFirst, source :: rest => do
      match ← partOf part ahead source with
      | .ok text =>
          if isHeaded then
            let shown := if source == ['-'] then "standard input".toList else source
            say ((if isFirst then [] else ['\n']) ++ "==> ".toList ++ shown ++ " <==\n".toList)
          say text
          printParts name part ahead isHeaded false rest
      | .error cause =>
          let _ ← tell name
            ("cannot open ".toList ++ enclosed source ++ " for reading: ".toList ++ reason cause)
          let _ ← printParts name part ahead isHeaded isFirst rest
          return 1

def head : Utility := fun name arguments =>
  let act (name : Text) (given : Given) : Effect Nat := do
    let sources := sources given
    let print (part : Text → Text) (ahead : Nat) : Effect Nat :=
      printParts name part ahead (1 < sources.length) true sources
    match given.value? 'c', (given.value? 'n').getD "10".toList with
    | some count, _ =>
        match Text.Decimal.digits? count with
        | some count => print (·.take count) 1
        | none => tell name ("invalid number of bytes: ".toList ++ enclosed count)
    | none, count =>
        match Text.Decimal.digits? count with
        | some count => print (firstLines count) block
        | none => tell name ("invalid number of lines: ".toList ++ enclosed count)
  withGiven [] ['c', 'n'] act name (spelledCount arguments)

/-! ## Counts -/

/-- How many words there are, each of which has something in it that can be seen. -/
def wordCount (text : Text) : Nat :=
  (text.splitOnP fun c => c = ' ' || ('\t' ≤ c && c ≤ '\r')).countP
    fun word => word.any fun c => ' ' ≤ c && c ≤ '~'

/-- The counts that options ask for: lines, words, and characters. -/
def counts (given : Given) (text : Text) : List Nat :=
  let isPlain := given.options.isEmpty
  (if isPlain || given.has 'l' then [text.count '\n'] else []) ++
    (if isPlain || given.has 'w' then [wordCount text] else []) ++
    (if isPlain || given.has 'c' then [text.length] else [])

/-- Counts under a name, right under each other in a width. -/
def countLine (width : Nat) (counts : List Nat) (label : Text) : Text :=
  let shown (count : Nat) : Text :=
    let digits := Nat.toDigits 10 count
    List.replicate (width - digits.length) ' ' ++ digits
  [' '].intercalate (counts.map shown) ++ (if label.isEmpty then [] else ' ' :: label) ++ ['\n']

/-- How wide counts are shown: as wide as the size of all files together, and wider beside a pipe. -/
def countWidth (columns : Nat) (isPiped : Bool) (texts : List Text) : Nat :=
  let total := texts.foldl (fun total text => total + text.length) 0
  let size := (Nat.toDigits 10 total).length
  if columns = 1 && texts.length = 1 then 1 else if isPiped then max 7 size else size

def wc : Utility :=
  withGiven ['l', 'w', 'c'] [] fun name given => do
    let sources := sources given
    let isPiped := sources.contains ['-'] && ((← pending? 0).map Prod.snd) == some false
    let contents ← sources.mapM contentOf
    let rows := (sources.zip contents).filterMap fun (source, content) =>
      content.toOption.map fun text => (if given.operands.isEmpty then [] else source, text)
    let width := countWidth (counts given []).length isPiped (rows.map Prod.snd)
    for (label, text) in rows do
      say (countLine width (counts given text) label)
    if 1 < sources.length then
      let sums := rows.foldl (fun sums row => List.zipWith (· + ·) sums (counts given row.2))
        (counts given [])
      say (countLine width sums "total".toList)
    let statuses ← (sources.zip contents).mapM fun (source, content) =>
      match content with
      | .ok _ => pure 0
      | .error cause => tell name (shownName source ++ ": ".toList ++ reason cause)
    return statuses.foldl max 0

/-! ## Exchanged characters -/

/-- A character of a set, which may be an escape, and what follows. -/
def member : Text → Option (Char × Text)
  | [] => none
  | '\\' :: rest =>
      let (meant, more) := Format.escape rest
      if more.length = rest.length then some (rest.headD '\\', rest.drop 1)
      else meant.head?.map fun c => (c, more)
  | c :: rest => some (c, rest)

/-- The characters from one to another. -/
def charsFrom (low high : Char) : Text :=
  (List.range (high.toNat + 1 - low.toNat)).map fun step => Char.ofNat (low.toNat + step)

/-- The characters of a set, with ranges, classes and escapes. -/
def membersWithin : Nat → Text → Text
  | 0, _ => []
  | fuel + 1, text =>
      let name := (text.drop 2).takeWhile (· ≠ ':')
      let ranges := if text.take 2 = ['[', ':'] then Pattern.namedRanges? name else none
      match ranges, member text with
      | some ranges, _ =>
          let own := ranges.flatMap fun (low, high) => charsFrom low high
          own.mergeSort (fun left right => left ≤ right) ++
            membersWithin fuel (text.drop (name.length + 4))
      | none, none => []
      | none, some (low, '-' :: rest) =>
          match member rest with
          | some (high, rest) => charsFrom low high ++ membersWithin fuel rest
          | none => [low, '-']
      | none, some (c, rest) => c :: membersWithin fuel rest

def members (text : Text) : Text :=
  membersWithin (text.length + 1) text

def complement (members : Text) : Text :=
  ((List.range 256).map Char.ofNat).filter fun c => !members.contains c

/-- Exchanges a character of one set for that in the same place of another, of which the last one
serves for all places behind it. -/
def exchange (wanted replacement : Text) (c : Char) : Char :=
  match wanted.findIdx? (· == c) with
  | some place => replacement.getD place (replacement.getLast?.getD c)
  | none => c

/-- Makes one of each run of a character of the set. -/
def squeeze (members : Text) : Text → Text
  | [] => []
  | c :: rest =>
      if rest.head? = some c && members.contains c then
        squeeze members rest
      else
        c :: squeeze members rest

/-- What becomes of a text, given whether characters are deleted and whether runs are squeezed. -/
def changed (deletes squeezes : Bool) (wanted replacement text : Text) : Text :=
  let text :=
    if deletes then text.filter fun c => !wanted.contains c
    else text.map (exchange wanted replacement)
  if squeezes then squeeze replacement text else text

def tr : Utility :=
  withGiven ['d', 's', 'c', 'C'] [] fun name given => do
    let wanted (text : Text) : Text :=
      if given.has 'c' || given.has 'C' then complement (members text) else members text
    let answer (act : Text → Text) : Effect Nat := do
      say (act (← readAll 0))
      return 0
    match given.operands, given.has 'd', given.has 's' with
    | [], _, _ => misuse name "missing operand".toList
    | [first], true, _ => answer (changed true false (wanted first) [])
    | [first], false, true => answer (squeeze (wanted first))
    | [first], false, false =>
        misuse name ("missing operand after ".toList ++ enclosed first ++
          "\nTwo strings must be given when translating.".toList)
    | first :: second :: _, deletes, squeezes =>
        answer (changed deletes squeezes (wanted first) (members second))

end Reformat.Shell.Utility
