import Reformat.Shell.Token

/-!
The commands of a script, read one line at a time: what stands on a line can run before the next one
is looked at.
-/

namespace Reformat.Shell

/-- The text of a word without quotes and parameters. -/
def bareText? : Word → Option Text
  | [.text value false] => some value
  | _ => none

/-- What the next token may be, beside what it always may be. -/
structure Outlook where
  /-- Whether line ends are passed over. -/
  newlines : Bool
  reserved : Bool
  /-- Whether the word tells how a document ends. -/
  delimiter : Bool

namespace Outlook

def plain : Outlook :=
  ⟨false, false, false⟩

/-- At the front of a command on the same line. -/
def command : Outlook :=
  ⟨false, true, false⟩

/-- At the front of a command that may stand on a later line. -/
def laterCommand : Outlook :=
  ⟨true, true, false⟩

def ending : Outlook :=
  ⟨false, false, true⟩

end Outlook

/-- Where a list of commands ends. -/
inductive Extent where
  | line
  /-- Goes over lines, and has a command at least. -/
  | body
  /-- Goes over lines, and may have no command. -/
  | branch
deriving DecidableEq, Repr

/-- Whether a token ends a list of commands. -/
def Token.isEnd : Token → Bool
  | operator text => text == [')'] || text == ";;".toList
  | reserved name =>
      ["\x7d", "do", "done", "elif", "else", "esac", "fi", "then"].contains (String.ofList name)
  | finish => true
  | _ => false

def Token.isOperator (token : Token) (name : String) : Bool :=
  match token with
  | operator text => text == name.toList
  | _ => false

def Token.isReserved (token : Token) (name : String) : Bool :=
  match token with
  | reserved text => text == name.toList
  | _ => false

/-- An assignment that a word may be: a name, and the word behind the sign. -/
def assignment? : Word → Option (Text × Word)
  | .text value false :: parts =>
      let name := value.takeWhile (· ≠ '=')
      match value.dropWhile (· ≠ '=') with
      | [] => none
      | _ :: rest =>
          if isName name then
            some (name, if rest.isEmpty then parts else .text rest false :: parts)
          else
            none
  | _ => none

def join (first second : Command) : Command :=
  match first with
  | .nothing => second
  | _ => .sequence first second

namespace Reader

/-- Makes a reserved word of a word, where there may be one. -/
def resolve (outlook : Outlook) : Token → Token
  | .word parts =>
      match (bareText? parts).filter fun text => outlook.reserved && reservedWords.contains text with
      | some name => .reserved name
      | none => .word parts
  | token => token

/-- The next token, as it is to be understood. -/
def next (script : Reader Command) (outlook : Outlook) : Nat → Reader Token
  | 0 => return .finish
  | fuel + 1 => do
      let region : Region := if outlook.delimiter then .delimiter else .word
      match (← get).held with
      | some .newline =>
          if outlook.newlines then
            let _ ← takeHeld
            readDocuments script fuel
            next script outlook fuel
          else
            takeHeld
      | some _ => return resolve outlook (← takeHeld)
      | none =>
          let token ← token script region fuel
          match token with
          | .newline =>
              if outlook.newlines then
                readDocuments script fuel
                next script outlook fuel
              else
                return token
          | _ => return resolve outlook token

/-- The target of a redirection. -/
def target (script : Reader Command) (fuel : Nat) (descriptor : Option Nat) (mark : Text) :
    Reader Redirection := do
  let isDocument := mark == "<<".toList || mark == "<<-".toList
  match ← next script (if isDocument then .ending else .plain) fuel with
  | .word target =>
      let fallback := if mark.head? = some '<' then 0 else 1
      if isDocument then
        let source ← get
        let document : Announced :=
          ⟨source.number, plainText target, mark == "<<-".toList, isQuoted target⟩
        set { source with
          number := source.number + 1, announced := source.announced ++ [document] }
        return .document (descriptor.getD fallback) document.number
      let direction : Direction :=
        if mark == ['<'] then .input
        else if mark == ['>'] then .output
        else if mark == ">|".toList then .replace
        else if mark == ">>".toList then .append
        else if mark == "<>".toList then .both
        else .copy
      return .file (descriptor.getD fallback) direction target
  | token => refuse token none

/-- The redirections behind a command. -/
def redirections (script : Reader Command) : Nat → Reader (List Redirection)
  | 0 => return []
  | fuel + 1 => do
      match ← next script .command fuel with
      | .redirection descriptor mark =>
          let first ← target script fuel descriptor mark
          return first :: (← redirections script fuel)
      | token =>
          hold token
          return []

/-- What is read so far of a simple command. -/
structure Draft where
  assignments : List (Text × Word)
  words : List Word
  redirections : List Redirection

/-- The rest of a simple command, up to a token that is no part of it. -/
def draft (script : Reader Command) : Nat → Draft → Reader (Draft × Token)
  | 0, sofar => return (sofar, .finish)
  | fuel + 1, sofar => do
      match ← next script .plain fuel with
      | .word parts =>
          match sofar.words, assignment? parts with
          | [], some assignment =>
              draft script fuel { sofar with assignments := sofar.assignments ++ [assignment] }
          | _, _ => draft script fuel { sofar with words := sofar.words ++ [parts] }
      | .redirection descriptor mark =>
          let redirection ← target script fuel descriptor mark
          draft script fuel { sofar with redirections := sofar.redirections ++ [redirection] }
      | token => return (sofar, token)

/-- The words up to the end of the line or a semicolon. -/
def wordsOfLine (script : Reader Command) : Nat → Reader (List Word)
  | 0 => return []
  | fuel + 1 => do
      match ← next script .plain fuel with
      | .word parts => return parts :: (← wordsOfLine script fuel)
      | .newline => return []
      | .operator [';'] => return []
      | token => refuse token none

/-- The patterns of a branch, of which the first one is given, up to the parenthesis behind them. -/
def patterns (script : Reader Command) : Nat → Token → Reader (List Word)
  | 0, _ => return []
  | fuel + 1, token => do
      let own : Word :=
        match token with
        | .word parts => parts
        | .reserved name => [.text name false]
        | _ => []
      match ← next script .plain fuel with
      | .operator ['|'] => return own :: (← patterns script fuel (← next script .plain fuel))
      | .operator [')'] => return [own]
      | token => refuse token (some (quotedName [')']))

def requireReserved (script : Reader Command) (outlook : Outlook) (fuel : Nat) (name : String) :
    Reader Unit := do
  let token ← next script outlook fuel
  if !token.isReserved name then
    refuse token (some (quotedName name.toList))

mutual

/-- Commands up to the end of the line, or up to a token that ends them, which is held. -/
def list : Nat → Extent → Command → Bool → Reader (Option Command)
  | 0, _, _, _ => refuse .finish none
  | fuel + 1, extent, before, isFirst => do
      let script := nestedList fuel
      let sofar := if isFirst then none else some before
      match ← next script (if extent = .line then .command else .laterCommand) fuel with
      | .newline =>
          readDocuments script fuel
          return some before
      | .finish =>
          readDocuments script fuel
          hold .finish
          return if extent = .line then sofar else some before
      | token =>
          hold token
          if token.isEnd && (extent = .branch || (extent = .body && !isFirst)) then
            return some before
          let own ← andOr fuel .plain
          let token ← next script .plain fuel
          let isBackground := token.isOperator "&"
          let commands := join before (if isBackground then .background own else own)
          match token with
          | .finish =>
              readDocuments script fuel
              hold .finish
              return some commands
          | .newline =>
              hold .newline
              list fuel extent commands false
          | _ =>
              if isBackground || token.isOperator ";" then
                list fuel extent commands false
              else if extent = .line then
                refuse token none
              else
                hold token
                return some commands

/-- The commands of a script that is part of a word. -/
def nestedList : Nat → Reader Command
  | 0 => refuse .finish none
  | fuel + 1 => do
      return (← list fuel .branch .nothing true).getD .nothing

def body : Nat → Reader Command
  | 0 => refuse .finish none
  | fuel + 1 => do
      return (← list fuel .body .nothing true).getD .nothing

def andOr : Nat → Outlook → Reader Command
  | 0, _ => refuse .finish none
  | fuel + 1, outlook => do
      andOrRest fuel (← pipeline fuel outlook)

def andOrRest : Nat → Command → Reader Command
  | 0, first => return first
  | fuel + 1, first => do
      let token ← next (nestedList fuel) .plain fuel
      let onSuccess := token.isOperator "&&"
      if onSuccess || token.isOperator "||" then
        let second ← pipeline fuel .laterCommand
        andOrRest fuel (.either (!onSuccess) first second)
      else
        hold token
        return first

def pipeline : Nat → Outlook → Reader Command
  | 0, _ => refuse .finish none
  | fuel + 1, outlook => do
      let token ← next (nestedList fuel) outlook fuel
      let isNegated := token.isReserved "!"
      if !isNegated then
        hold token
      let stages ← stages fuel (if isNegated then .command else .plain)
      match stages, isNegated with
      | [command], false => return command
      | _, _ => return .pipeline isNegated stages

def stages : Nat → Outlook → Reader (List Command)
  | 0, _ => refuse .finish none
  | fuel + 1, outlook => do
      let first ← command fuel outlook
      let token ← next (nestedList fuel) .plain fuel
      if token.isOperator "|" then
        return first :: (← stages fuel .laterCommand)
      hold token
      return [first]

def command : Nat → Outlook → Reader Command
  | 0, _ => refuse .finish none
  | fuel + 1, outlook => do
      let script := nestedList fuel
      let line := (← get).line
      match ← next script outlook fuel with
      | .operator ['('] => do
          let inside ← body fuel
          let token ← next script .plain fuel
          if !token.isOperator ")" then
            refuse token (some (quotedName [')']))
          redirected fuel line (.subshell line inside)
      | .reserved name => do
          let compound ← compound fuel line (.reserved name)
          redirected fuel line compound
      | .word parts => do
          hold (.word parts)
          simple fuel
      | .redirection descriptor mark => do
          hold (.redirection descriptor mark)
          simple fuel
      | token => refuse token none

def redirected : Nat → Nat → Command → Reader Command
  | 0, _, _ => refuse .finish none
  | fuel + 1, line, inside => do
      let redirections ← redirections (nestedList fuel) fuel
      return if redirections.isEmpty then inside else .redirected line inside redirections

/-- What begins with a reserved word. -/
def compound : Nat → Nat → Token → Reader Command
  | 0, _, _ => refuse .finish none
  | fuel + 1, line, token => do
      let script := nestedList fuel
      if token.isReserved "\x7b" then
        let inside ← body fuel
        requireReserved script .plain fuel "\x7d"
        return inside
      else if token.isReserved "if" then
        conditional fuel
      else if token.isReserved "while" || token.isReserved "until" then
        let test ← body fuel
        requireReserved script .plain fuel "do"
        let inside ← body fuel
        requireReserved script .plain fuel "done"
        return .loop (token.isReserved "until") test inside
      else if token.isReserved "for" then
        each fuel line
      else if token.isReserved "case" then
        match ← next script .plain fuel with
        | .word subject =>
            requireReserved script .laterCommand fuel "in"
            return .choice line subject (← branches fuel)
        | token => refuse token (some "word".toList)
      else
        refuse token none

/-- What follows `if` or `elif`. -/
def conditional : Nat → Reader Command
  | 0 => refuse .finish none
  | fuel + 1 => do
      let script := nestedList fuel
      let test ← body fuel
      requireReserved script .plain fuel "then"
      let positive ← body fuel
      let token ← next script .plain fuel
      if token.isReserved "elif" then
        return .conditional test positive (← conditional fuel)
      else if token.isReserved "else" then
        let negative ← body fuel
        requireReserved script .plain fuel "fi"
        return .conditional test positive negative
      else if token.isReserved "fi" then
        return .conditional test positive .nothing
      else
        refuse token (some (quotedName "fi".toList))

/-- What follows `for`. -/
def each : Nat → Nat → Reader Command
  | 0, _ => refuse .finish none
  | fuel + 1, line => do
      let script := nestedList fuel
      let name ←
        match ← next script .plain fuel with
        | .word parts => pure ((bareText? parts).filter isName)
        | _ => pure none
      match name with
      | none => misread "Bad for loop variable".toList
      | some name =>
          let token ← next script .laterCommand fuel
          let words ←
            if token.isReserved "in" then
              pure (some (← wordsOfLine script fuel))
            else do
              if !token.isOperator ";" then
                hold token
              pure none
          requireReserved script .laterCommand fuel "do"
          let inside ← body fuel
          requireReserved script .plain fuel "done"
          return .each line name words inside

def branches : Nat → Reader (List (List Word × Command))
  | 0 => refuse .finish none
  | fuel + 1 => do
      let script := nestedList fuel
      let token ← next script .laterCommand fuel
      if token.isReserved "esac" then
        return []
      let first ← if token.isOperator "(" then next script .plain fuel else pure token
      let patterns ← patterns script fuel first
      let inside ← nestedList fuel
      let token ← next script .laterCommand fuel
      if token.isReserved "esac" then
        return [(patterns, inside)]
      if !token.isOperator ";;" then
        refuse token (some (quotedName ";;".toList))
      return (patterns, inside) :: (← branches fuel)

def simple : Nat → Reader Command
  | 0 => refuse .finish none
  | fuel + 1 => do
      let script := nestedList fuel
      let line := (← get).line
      let (read, token) ← draft script fuel ⟨[], [], []⟩
      match read.words, read.assignments, read.redirections, token with
      | [name], [], [], .operator ['('] =>
          let token ← next script .plain fuel
          if !token.isOperator ")" then
            refuse token (some (quotedName [')']))
          match (bareText? name).filter fun name => isName name && !specialNames.contains name with
          | some name => return .define name (← command fuel .laterCommand)
          | none => misread "Bad function name".toList
      | words, assignments, redirections, token =>
          hold token
          return .simple line assignments words redirections

end

end Reader

/-- The pieces of a text that is as if in double quotes, but has no end but its own. -/
def Source.quotedParts (source : Source) : Except Misreading Word :=
  let fuel := 16 * source.rest.length + 100000
  let endless : Announced := ⟨0, ['\n'], false, false⟩
  (Reader.parts (Reader.nestedList fuel) (some endless) fuel .document []).run' source

/-- What is read of a script at once. -/
inductive Line where
  | commands (command : Command)
  | blank
  | finish

/-- Reads the next line of a script, and those that it goes on with. -/
def Source.nextLine (source : Source) : Except Misreading (Line × Source) := do
  let fuel := 16 * source.rest.length + 100000
  let source := { source with held := none, announced := [] }
  match ← Reader.list fuel .line .nothing true source with
  | (none, source) => return (.finish, source)
  | (some .nothing, source) => return (.blank, source)
  | (some command, source) => return (.commands command, source)

end Reformat.Shell
