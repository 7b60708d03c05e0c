import Reformat.Shell.Floating

/-!
Formatted printing: escapes behind a backslash, and formats in which directives stand for arguments.
A format is used again for as long as it takes up arguments and some are left.
-/

namespace Reformat.Shell.Format

def isOctal (c : Char) : Bool :=
  '0' ≤ c && c ≤ '7'

def octet (value : Nat) : Char :=
  Char.ofNat (value % 256)

/-- The character that a letter behind a backslash stands for. -/
def escaped? : Char → Option Char
  | 'a' => some '\x07'
  | 'b' => some '\x08'
  | 'e' => some '\x1B'
  | 'f' => some '\x0C'
  | 'n' => some '\n'
  | 'r' => some '\r'
  | 't' => some '\t'
  | 'v' => some '\x0B'
  | '\\' => some '\\'
  | _ => none

/-- What an escape stands for, given the text behind the backslash, and what follows. -/
def escape (text : Text) : Text × Text :=
  let digits := (text.take 3).takeWhile isOctal
  if digits.isEmpty then
    match text with
    | [] => (['\\'], [])
    | c :: rest =>
        match escaped? c with
        | some meant => ([meant], rest)
        | none => (['\\'], text)
  else
    ([octet (Number.ofDigits 8 digits)], text.drop digits.length)

/-- The text with its escapes resolved, and whether `\c` has ended it. A zero may stand in front of
three octal digits. -/
def unescapeWithin : Nat → Text → Text × Bool
  | 0, _ => ([], false)
  | _ + 1, [] => ([], false)
  | fuel + 1, '\\' :: rest =>
      match rest with
      | 'c' :: _ => ([], true)
      | _ =>
          let digits :=
            match rest with
            | '0' :: more => if more.head?.any isOctal then more else rest
            | _ => rest
          let (meant, more) := escape digits
          let (others, stopped) := unescapeWithin fuel more
          (meant ++ others, stopped)
  | fuel + 1, c :: rest =>
      let (others, stopped) := unescapeWithin fuel rest
      (c :: others, stopped)

def unescape (text : Text) : Text × Bool :=
  unescapeWithin (text.length + 1) text

/-- What `echo` prints. -/
def echo : List Text → Text
  | ['-', 'n'] :: words => (unescape ([' '].intercalate words)).1
  | words =>
      let (text, stopped) := unescape ([' '].intercalate words)
      if stopped then text else text ++ ['\n']

/-- How wide or how precise: as the format says, or as an argument does. -/
inductive Extent where
  | unstated
  | stated (size : Nat)
  | argument
deriving DecidableEq, Repr

inductive Directive where
  | literal (text : Text)
  | conversion (flags : List Char) (width precision : Extent) (kind : Char)
  | broken (complaint : Text)
deriving DecidableEq, Repr

def extent : Text → Extent × Text
  | '*' :: rest => (.argument, rest)
  | text =>
      let digits := text.takeWhile Char.isDigit
      if digits.isEmpty then
        (.unstated, text)
      else
        (.stated (Number.ofDigits 10 digits), text.drop digits.length)

def isFlag (c : Char) : Bool :=
  c ∈ ['#', '-', '+', ' ', '0']

/-- The directive behind a percent sign, and what follows. -/
def directive (text : Text) : Directive × Text :=
  let flags := text.takeWhile isFlag
  let (width, rest) := extent (text.dropWhile isFlag)
  let (precision, rest) :=
    match rest with
    | '.' :: rest =>
        let (precision, rest) := extent rest
        (if precision = .unstated then .stated 0 else precision, rest)
    | _ => (.unstated, rest)
  match rest with
  | [] => (.broken "missing format character".toList, [])
  | kind :: more =>
      if "diouxXfFeEgGcsb".toList.contains kind then
        (.conversion flags width precision kind, more)
      else
        let shown := text.take (text.length - more.length)
        (.broken ('%' :: shown ++ ": invalid directive".toList), [])

def directivesWithin : Nat → Text → List Directive
  | 0, _ => []
  | _ + 1, [] => []
  | fuel + 1, '%' :: '%' :: rest => .literal ['%'] :: directivesWithin fuel rest
  | fuel + 1, '%' :: rest =>
      let (directive, more) := directive rest
      directive :: directivesWithin fuel more
  | fuel + 1, '\\' :: rest =>
      let (meant, more) := escape rest
      .literal meant :: directivesWithin fuel more
  | fuel + 1, c :: rest => .literal [c] :: directivesWithin fuel rest

/-- The directives of a format. -/
def directives (format : Text) : List Directive :=
  directivesWithin (format.length + 1) format

/-- What is to be said of an argument of which a number was read, or was not. -/
def complaint? (argument : Text) (reading : Option (Bool × Text)) : Option Text :=
  match reading with
  | none =>
      if argument.isEmpty then none else some (argument ++ ": expected numeric value".toList)
  | some (outOfRange, rest) =>
      if !rest.isEmpty then some (argument ++ ": not completely converted".toList)
      else if outOfRange then some (argument ++ ": Numerical result out of range".toList)
      else none

/-- The number of the character behind a quote. -/
def quoted? : Text → Option Nat
  | mark :: rest =>
      if mark = '\'' ∨ mark = '"' then some ((rest.head?.map Char.toNat).getD 0) else none
  | [] => none

/-- A number that an argument gives, and a complaint about it. One without sign has all 64 bits for
itself, and is taken below their end where it is negative. -/
def integer (signed : Bool) (argument : Text) : Int × Option Text :=
  match quoted? argument, Number.signed? none argument with
  | some code, _ => ((code : Nat), none)
  | none, none => (0, complaint? argument none)
  | none, some (value, rest) =>
      let (held, outOfRange) : Int × Bool :=
        if signed then (Number.clamp value, !Number.isWord value)
        else if UInt64.size ≤ value.natAbs then ((UInt64.size - 1 : Nat), true)
        else (value, false)
      (held, complaint? argument (some (outOfRange, rest)))

/-- A number with a point that an argument gives, and a complaint about it. -/
def real (argument : Text) : Floating × Option Text :=
  match quoted? argument, Floating.read? argument with
  | some code, _ => (.finite false code 0, none)
  | none, none => (.zero, complaint? argument none)
  | none, some (value, outOfRange, rest) => (value, complaint? argument (some (outOfRange, rest)))

/-- Text with blanks, or zeros behind its sign, up to a width. -/
def pad (flags : List Char) (width : Nat) (zeros : Bool) (sign body : Text) : Text :=
  let missing := width - (sign.length + body.length)
  if flags.contains '-' then
    sign ++ body ++ List.replicate missing ' '
  else if zeros && flags.contains '0' then
    sign ++ List.replicate missing '0' ++ body
  else
    List.replicate missing ' ' ++ sign ++ body

def upper (text : Text) : Text :=
  text.map Char.toUpper

/-- The sign in front of a number. -/
def signOf (flags : List Char) (negative : Bool) : Text :=
  if negative then ['-']
  else if flags.contains '+' then ['+']
  else if flags.contains ' ' then [' ']
  else []

/-- A whole number as a conversion writes it. -/
def writeInteger (flags : List Char) (width : Nat) (precision : Option Nat) (kind : Char)
    (value : Int) : Text :=
  let signed := kind == 'd' || kind == 'i'
  let size : Nat := if signed then value.natAbs else (UInt64.ofInt value).toNat
  let base := if kind == 'o' then 8 else if kind == 'x' || kind == 'X' then 16 else 10
  let digits := if size = 0 && precision == some 0 then [] else Nat.toDigits base size
  let digits := List.replicate (precision.getD 0 - digits.length) '0' ++ digits
  let digits :=
    if kind == 'o' && flags.contains '#' && digits.head? != some '0' then '0' :: digits else digits
  let digits := if kind == 'X' then upper digits else digits
  let sign :=
    if signed then signOf flags (value < 0)
    else if flags.contains '#' && size != 0 && kind == 'x' then "0x".toList
    else if flags.contains '#' && size != 0 && kind == 'X' then "0X".toList
    else []
  pad flags width precision.isNone sign digits

/-- A number with a point as a conversion writes it. -/
def writeReal (flags : List Char) (width : Nat) (precision : Option Nat) (kind : Char)
    (value : Floating) : Text :=
  let sign := signOf flags value.isNegative
  let cased (text : Text) : Text := if kind.isUpper then upper text else text
  match value with
  | .infinite _ => pad flags width false sign (cased "inf".toList)
  | .notANumber _ => pad flags width false sign (cased "nan".toList)
  | .finite _ mantissa exponent =>
      let keepsPoint := flags.contains '#'
      let written :=
        match kind.toLower with
        | 'f' => Floating.fixed
        | 'e' => Floating.scientific
        | _ => Floating.general
      let above := mantissa * Nat.pow 2 exponent.toNat
      let below := Nat.pow 2 (-exponent).toNat
      pad flags width true sign (cased (written above below (precision.getD 6) keepsPoint))

/-- A format under way. -/
structure Progress where
  arguments : List Text
  /-- What has been printed, the last piece first. -/
  pieces : List Text
  complaints : List Text
  /-- Whether nothing more is to be printed. -/
  stopped : Bool
  /-- Whether the format itself is wrong. -/
  failed : Bool

namespace Progress

def output (progress : Progress) : Text :=
  progress.pieces.reverse.flatten

def take (progress : Progress) : Text × Progress :=
  (progress.arguments.headD [], { progress with arguments := progress.arguments.tail })

def print (progress : Progress) (text : Text) (complaint : Option Text) : Progress :=
  { progress with
    pieces := text :: progress.pieces
    complaints := progress.complaints ++ complaint.toList }

def fail (progress : Progress) (complaint : Text) : Progress :=
  { progress with
    complaints := progress.complaints ++ [complaint], stopped := true, failed := true }

def extent (progress : Progress) : Extent → Option Int × Progress
  | .unstated => (none, progress)
  | .stated size => (some (size : Int), progress)
  | .argument =>
      let (argument, progress) := progress.take
      let (value, complaint) := integer true argument
      (some (Int.bmod value UInt32.size),
        { progress with complaints := progress.complaints ++ complaint.toList })

/-- Prints the next argument as a conversion says. -/
def convert (progress : Progress) (flags : List Char) (width : Nat) (precision : Option Nat)
    (kind : Char) : Progress :=
  let (argument, progress) := progress.take
  let cut (text : Text) : Text := (precision.map fun size => text.take size).getD text
  if kind == 's' then
    progress.print (pad flags width false [] (cut argument)) none
  else if kind == 'b' then
    let (text, stopped) := unescape argument
    { progress.print (pad flags width false [] (cut text)) none with stopped := stopped }
  else if kind == 'c' then
    progress.print (pad flags width false [] [argument.headD '\x00']) none
  else if "efg".toList.contains kind.toLower then
    let (value, complaint) := real argument
    progress.print (writeReal flags width precision kind value) complaint
  else
    let (value, complaint) := integer (kind == 'd' || kind == 'i') argument
    progress.print (writeInteger flags width precision kind value) complaint

/-- Whether a text of a kind would be too wide to be printed. -/
def isTooMuch (kind : Char) (width : Nat) (precision : Option Nat) : Bool :=
  let most := if "scbgG".toList.contains kind then 2147483647 else 100000000
  100000000 < width || precision.any (most < ·)

/-- Carries out one directive. -/
def step (progress : Progress) (directive : Directive) : Progress :=
  if progress.stopped then
    progress
  else
    match directive with
    | .literal text => progress.print text none
    | .broken complaint => progress.fail complaint
    | .conversion flags width precision kind =>
        let (width, progress) := progress.extent width
        let flags := if width.any (· < 0) then '-' :: flags else flags
        let width := (width.getD 0).natAbs
        let (precision, progress) := progress.extent precision
        let precision := precision.bind fun size => if size < 0 then none else some size.toNat
        if isTooMuch kind width precision then
          progress.fail "xvsnprintf failed".toList
        else
          progress.convert flags width precision kind

end Progress

def printWithin : Nat → List Directive → Progress → Progress
  | 0, _, progress => progress
  | fuel + 1, directives, progress =>
      let next := directives.foldl Progress.step progress
      if next.stopped || next.arguments.isEmpty ||
          next.arguments.length = progress.arguments.length then
        next
      else
        printWithin fuel directives next

/-- Prints arguments as a format says. -/
def print (format : Text) (arguments : List Text) : Progress :=
  printWithin (arguments.length + 1) (directives format) ⟨arguments, [], [], false, false⟩

end Reformat.Shell.Format
