import AmbientDecls.Toolbox.Shell.Token

/-!
# Reading scripts

How commands are written. Every step that reads something takes one off its fuel, and so a script is
read to its end if the fuel is a multiple of its length.
-/

namespace AmbientDecls.Toolbox.Shell

/-- What the pieces of a word are inside of. -/
inductive Context where
  | bare
  /-- Braces around a parameter, perhaps in quotes. -/
  | braces (quoted : Bool)
  | quotes
  | document
  /-- A calculation, with so many parentheses open. -/
  | calculation (depth : Nat)
deriving DecidableEq, Repr, Inhabited

namespace Context

def isQuoted : Context → Bool
  | bare => false
  | braces quoted => quoted
  | quotes | document | calculation _ => true

/-- The fault that a script ends inside. -/
def unclosed? : Context → Option String
  | bare | document => none
  | braces false => some "Missing '\x7d'"
  | braces true | quotes => some "Unterminated quoted string"
  | calculation _ => some "Missing '))'"

/-- Whether a backslash before a byte goes, so that only the byte stays. -/
def unescapes (x : Context) (c : Char) : Bool :=
  ! x.isQuoted || c == '\\' || c == '\x60' || c == '$' || (c == '"' && x != .document) ||
    (c == '\x7d' && x == .braces true)

end Context

inductive Extent where
  /-- The end of the line. -/
  | line
  /-- A token that ends commands; there has to be a command. -/
  | block
  /-- A token that ends commands. -/
  | perhaps
deriving DecidableEq, Repr, Inhabited

namespace Reader

def singleQuoted (read : Bytes) : (fuel : Nat) → Reader Bytes
  | 0 => fail "Unterminated quoted string"
  | fuel + 1 => do
    match ← take with
    | none => fail "Unterminated quoted string"
    | some '\'' => return read.reverse
    | some c => singleQuoted (c :: read) fuel

/-- The bytes between backquotes, without the backslashes before those that need them. -/
def backquoted (quoted : Bool) (read : Bytes) : (fuel : Nat) → Reader Bytes
  | 0 => fail "EOF in backquote substitution"
  | fuel + 1 => do
    let _ ← peek
    match ← take with
    | none => fail "EOF in backquote substitution"
    | some '\x60' => return read.reverse
    | some '\\' =>
      match ← take with
      | none => fail "EOF in backquote substitution"
      | some c =>
        let isEscape := c == '\\' || c == '\x60' || c == '$' || (quoted && c == '"')
        backquoted quoted (if isEscape then c :: read else c :: '\\' :: read) fuel
    | some c => backquoted quoted (c :: read) fuel

/-- Takes a byte if it comes next. -/
def accept (c : Char) : Reader Bool := do
  if (← peek) = some c then
    skip
    return true
  return false

/-- The change of a parameter that the bytes behind its name ask for, if there is one. -/
def change : Reader Change := do
  let orEmpty ← accept ':'
  match ← take with
  | some '\x7d' => return if orEmpty then .invalid else .keep
  | some '-' => return .default orEmpty
  | some '+' => return .replace orEmpty
  | some '?' => return .demand orEmpty
  | some '=' => return .assign orEmpty
  | some '#' => if orEmpty then return .invalid else return .trimFront (← accept '#')
  | some '%' => if orEmpty then return .invalid else return .trimBack (← accept '%')
  | _ => return .invalid

def parameterName (fuel : Nat) : Reader Bytes := do
  match ← peek with
  | none => return []
  | some c =>
    if c.isDigit then takeWhile Char.isDigit fuel
    else if isNameChar c then takeWhile isNameChar fuel
    else if isSpecial c then
      skip
      return [c]
    else return []

/-- The name of a parameter in braces and what is made of its value; the closing brace has been
taken if nothing is. -/
def parameterHead (fuel : Nat) : Reader (Bytes × Change) := do
  if (← peek) = some '#' then
    let start ← get
    skip
    let name ← parameterName fuel
    if ! name.isEmpty && (← peek) = some '\x7d' then return (name, .length)
    else if name.any isNameChar then return (name, .invalid)
    set start
  let name ← parameterName fuel
  if name.isEmpty then return (name, .invalid) else return (name, ← change)

/-- Passes over blanks and comments. -/
def skipBlanks : (fuel : Nat) → Reader Unit
  | 0 => return
  | fuel + 1 => do
    match ← peek with
    | some ' ' | some '\t' =>
      skip
      skipBlanks fuel
    | some '#' =>
      modify fun i => { i with rest := i.rest.dropWhile (· != '\n') }
      skipBlanks fuel
    | _ => return

/-- The token of an operator that comes next, if one does. -/
def operator? : Reader (Option Token) := do
  match ← peek with
  | none => return some .finish
  | some '\n' =>
    skip
    return some .newline
  | some '&' =>
    skip
    return some (if ← accept '&' then .andAlso else .ampersand)
  | some '|' =>
    skip
    return some (if ← accept '|' then .orElse else .bar)
  | some ';' =>
    skip
    return some (if ← accept ';' then .endBranch else .semicolon)
  | some '(' =>
    skip
    return some .openParen
  | some ')' =>
    skip
    return some .closeParen
  | _ => return none

/-- The token of a redirection from its sign on, behind a descriptor if that is written. -/
def redirection (descriptor : Option Nat) : Reader Token := do
  let make := fun (usual : Nat) (opening : Opening) (stripped : Bool) =>
    Token.redirect (descriptor.getD usual) opening stripped
  if ← accept '>' then
    if ← accept '>' then return make 1 .append false
    else if ← accept '|' then return make 1 .overwrite false
    else if ← accept '&' then return make 1 .duplicate false
    else return make 1 .write false
  else
    skip
    if ← accept '<' then return make 0 .document (← accept '-')
    else if ← accept '&' then return make 0 .duplicate false
    else if ← accept '>' then return make 0 .readWrite false
    else return make 0 .read false

mutual

/-- Reads the pieces of a word onto those `done`, the last one first. -/
def pieces (x : Context) (done : Word) : (fuel : Nat) → Reader Word
  | 0 => fail "Unterminated quoted string"
  | fuel + 1 => do
    let onto := fun (c : Char) => pieces x (pushText x.isQuoted [c] done) fuel
    match ← peek, x with
    | none, _ =>
      match x.unclosed? with
      | some message => fail message
      | none => return done.reverse
    | some '"', .quotes =>
      skip
      return done.reverse
    | some '\x7d', .braces _ =>
      skip
      return done.reverse
    | some '(', .calculation depth =>
      skip
      pieces (.calculation (depth + 1)) (pushText true ['('] done) fuel
    | some ')', .calculation 0 =>
      skip
      if ← accept ')' then return done.reverse else onto ')'
    | some ')', .calculation (depth + 1) =>
      skip
      pieces (.calculation depth) (pushText true [')'] done) fuel
    | some '\\', _ =>
      skip
      match ← take with
      | none => pieces x (pushText true ['\\'] done) fuel
      | some c =>
        pieces x (pushText true (if x.unescapes c then [c] else ['\\', c]) done) fuel
    | some '\'', .bare | some '\'', .braces false =>
      skip
      let inner ← singleQuoted [] fuel
      pieces x (pushText true inner done) fuel
    | some '"', .bare | some '"', .braces _ =>
      skip
      let inner ← pieces .quotes [] fuel
      let inner := if inner.isEmpty then [.text true []] else inner
      pieces x (inner.reverse ++ done) fuel
    | some '$', _ =>
      skip
      let p ← dollar x.isQuoted fuel
      pieces x (p :: done) fuel
    | some '\x60', _ =>
      skip
      let source ← backquoted x.isQuoted [] fuel
      let i ← get
      set ({ rest := source, aliases := i.aliases } : Input)
      let script ← list .perhaps fuel
      set i
      pieces x (.output x.isQuoted script :: done) fuel
    | some c, _ =>
      if x == .bare && isMeta c then return done.reverse
      skip
      onto c

/-- Reads what a dollar sign stands in front of. -/
def dollar (quoted : Bool) : (fuel : Nat) → Reader Piece
  | 0 => fail "Unterminated quoted string"
  | fuel + 1 => do
    match ← peek with
    | some '(' =>
      skip
      if ← accept '(' then
        let word ← pieces (.calculation 0) [] fuel
        return .calculation quoted word
      else
        let script ← list .perhaps fuel
        match ← token false false fuel with
        | .closeParen => return .output quoted script
        | t => unexpected t (some .closeParen)
    | some '\x7b' =>
      skip
      let (name, change) ← parameterHead fuel
      match change with
      | .keep => return .parameter quoted name .keep []
      | .trimFront _ | .trimBack _ =>
        return .parameter quoted name change (← pieces (.braces false) [] fuel)
      | _ => return .parameter quoted name change (← pieces (.braces quoted) [] fuel)
    | some c =>
      if c.isDigit || isSpecial c then
        skip
        return .parameter quoted [c] .keep []
      else if isNameChar c then
        return .parameter quoted (← takeWhile isNameChar fuel) .keep []
      else return .text quoted ['$']
    | none => return .text quoted ['$']

/-- Reads a token. Line breaks before it are passed over if they mean nothing, and keywords are
told from words where a command may start. -/
def token (skipNewlines keywords : Bool) : (fuel : Nat) → Reader Token
  | 0 => return .finish
  | fuel + 1 => do
    let i ← get
    let t ← match i.held with
      | some t =>
        set { i with held := none }
        pure t
      | none =>
        skipBlanks fuel
        match ← operator? with
        | some t => pure t
        | none =>
          let word ← pieces .bare [] fuel
          let next ← peek
          if next = some '<' || next = some '>' then
            match word with
            | [] => redirection none
            | [.text false [c]] =>
              if c.isDigit then redirection (some (c.toNat - '0'.toNat)) else pure (.word word)
            | _ => pure (.word word)
          else pure (.word word)
    match t with
    | .newline => if skipNewlines then token skipNewlines keywords fuel else return t
    | .word w =>
      match if keywords then Word.bare? w else none with
      | some name =>
        match Keyword.ofBytes? name with
        | some k => return .keyword k
        | none => if ← replace name then token skipNewlines keywords fuel else return t
      | none => return t
    | t => return t

def redirectTo (descriptor : Nat) (opening : Opening) (stripped : Bool) :
    (fuel : Nat) → Reader Redirect
  | 0 => return default
  | fuel + 1 => do
    match ← token false false fuel with
    | .word w =>
      if opening = .document then
        let delimiter := (Word.literal? w).getD []
        let line := (← get).line
        let text ← takeDocument stripped delimiter
        if Word.isQuoted w then return .mk descriptor .document [.text true text]
        let i ← get
        set { i with rest := text, line := line + 1, taken := 0 }
        let inner ← pieces .document [] fuel
        set i
        return .mk descriptor .document inner
      return .mk descriptor opening w
    | t => unexpected t none

/-- Reads the redirections that come next. -/
def redirects (keywords : Bool) : (fuel : Nat) → Reader (List Redirect)
  | 0 => return []
  | fuel + 1 => do
    match ← token false keywords fuel with
    | .redirect descriptor opening stripped =>
      let r ← redirectTo descriptor opening stripped fuel
      return r :: (← redirects keywords fuel)
    | t =>
      hold t
      return []

/-- Reads the rest of a simple command, whose parts so far are given with the last ones first. -/
def simple (line : Nat) (assignments : List (Bytes × Word)) (words : List Word)
    (found : List Redirect) : (fuel : Nat) → Reader Command
  | 0 => return .nothing
  | fuel + 1 => do
    let finished := fun (t : Token) => do
      hold t
      return Command.simple line assignments.reverse words.reverse found.reverse
    match ← token false false fuel with
    | .word w =>
      match if words.isEmpty then assignment? w else none with
      | some a => simple line (a :: assignments) words found fuel
      | none => simple line assignments (w :: words) found fuel
    | .redirect descriptor opening stripped =>
      let r ← redirectTo descriptor opening stripped fuel
      simple line assignments words (r :: found) fuel
    | .openParen =>
      match assignments, words, found with
      | [], [w], [] =>
        match ← token false false fuel with
        | .closeParen =>
          match Word.bare? w with
          | some name =>
            if ! isName name || specialNames.contains name then fail "Bad function name"
            else return .function name (← command true fuel)
          | none => fail "Bad function name"
        | t => unexpected t (some .closeParen)
      | _, _, _ => finished .openParen
    | t => finished t

/-- Reads the branches of a conditional command behind its keyword. -/
def conditional : (fuel : Nat) → Reader Command
  | 0 => return .nothing
  | fuel + 1 => do
    let condition ← list .block fuel
    expect .thenDo fuel
    let success ← list .block fuel
    let failure ← match ← token false false fuel with
      | .keyword .elseIf => conditional fuel
      | .keyword .otherwise => list .block fuel
      | t =>
        hold t
        pure .nothing
    return .choice condition success failure

/-- Reads a keyword that has to come next. -/
def expect (k : Keyword) : (fuel : Nat) → Reader Unit
  | 0 => return
  | fuel + 1 => do
    let t ← token false false fuel
    if t.isKeyword k then return else unexpected t (some (.keyword k))

/-- Reads words up to another token, which stays. -/
def wordList : (fuel : Nat) → Reader (List Word)
  | 0 => return []
  | fuel + 1 => do
    match ← token false false fuel with
    | .word w => return w :: (← wordList fuel)
    | t =>
      hold t
      return []

def patterns (t : Token) : (fuel : Nat) → Reader (List Word)
  | 0 => return []
  | fuel + 1 => do
    match ← token false false fuel with
    | .bar =>
      let next ← token false false fuel
      return t.toWord :: (← patterns next fuel)
    | .closeParen => return [t.toWord]
    | other => unexpected other (some .closeParen)

/-- Reads the branches of a choice by patterns and the keyword behind them. -/
def branches : (fuel : Nat) → Reader (List Branch)
  | 0 => return []
  | fuel + 1 => do
    let first ← token true true fuel
    if first.isKeyword .esac then return []
    let first ← match first with
      | .openParen => token false false fuel
      | t => pure t
    let patterns ← patterns first fuel
    let body ← list .perhaps fuel
    match ← token true true fuel with
    | .keyword .esac => return [.mk patterns body]
    | .endBranch => return .mk patterns body :: (← branches fuel)
    | t => unexpected t (some .endBranch)

def command (skipNewlines : Bool) : (fuel : Nat) → Reader Command
  | 0 => return .nothing
  | fuel + 1 => do
    let line := (← get).line
    let closed := fun (c : Command) => do
      match ← redirects true fuel with
      | [] => return c
      | found =>
        match c with
        | .subshell line c _ => return .subshell line c found
        | c => return .redirected line c found
    match ← token skipNewlines true fuel with
    | .keyword .ifSo =>
      let c ← conditional fuel
      expect .fi fuel
      closed c
    | .keyword .whileSo =>
      let condition ← list .block fuel
      expect .doing fuel
      let body ← list .block fuel
      expect .done fuel
      closed (.loop false condition body)
    | .keyword .untilSo =>
      let condition ← list .block fuel
      expect .doing fuel
      let body ← list .block fuel
      expect .done fuel
      closed (.loop true condition body)
    | .keyword .forEach =>
      let name ← match ← token false false fuel with
        | .word w => pure ((Word.bare? w).getD [])
        | _ => pure []
      if ! isName name then fail "Bad for loop variable"
      let next ← token true true fuel
      let words ←
        if next.isKeyword .within then
          let words ← wordList fuel
          match ← token false false fuel with
          | .newline | .semicolon => pure words
          | t => unexpected t none
        else
          match next with
          | .semicolon => pure ()
          | t => hold t
          pure [[Piece.parameter true ['@'] .keep []]]
      let next ← token true true fuel
      if ! next.isKeyword .doing then unexpected next (some (.keyword .doing))
      let body ← list .block fuel
      expect .done fuel
      closed (.each line name words body)
    | .keyword .caseOf =>
      let word ← match ← token false false fuel with
        | .word w => pure w
        | t => unexpected t (some (.word []))
      let next ← token true true fuel
      if ! next.isKeyword .within then unexpected next (some (.keyword .within))
      closed (.select line word (← branches fuel))
    | .openParen =>
      let body ← list .block fuel
      match ← token false false fuel with
      | .closeParen => closed (.subshell line body [])
      | t => unexpected t (some .closeParen)
    | .keyword .opening =>
      let body ← list .block fuel
      expect .closing fuel
      closed body
    | .word w =>
      hold (.word w)
      simple (← get).line [] [] [] fuel
    | .redirect descriptor opening stripped =>
      hold (.redirect descriptor opening stripped)
      simple (← get).line [] [] [] fuel
    | t => unexpected t none

/-- Reads commands that are piped into one another. -/
def stages (skipNewlines : Bool) : (fuel : Nat) → Reader (List Command)
  | 0 => return []
  | fuel + 1 => do
    let first ← command skipNewlines fuel
    match ← token false false fuel with
    | .bar => return first :: (← stages true fuel)
    | t =>
      hold t
      return [first]

def pipeline : (fuel : Nat) → Reader Command
  | 0 => return .nothing
  | fuel + 1 => do
    let t ← token true true fuel
    let inverted := t.isKeyword .bang
    if ! inverted then hold t
    let c ← match ← stages false fuel with
      | [c] => pure c
      | all => pure (.pipeline all)
    return if inverted then .negated c else c

/-- Reads the pipelines that follow one by its success or failure. -/
def following (first : Command) : (fuel : Nat) → Reader Command
  | 0 => return first
  | fuel + 1 => do
    match ← token false false fuel with
    | .andAlso => following (.joined first .ifSuccessful (← pipeline fuel)) fuel
    | .orElse => following (.joined first .ifFailed (← pipeline fuel)) fuel
    | t =>
      hold t
      return first

def list (extent : Extent) : (fuel : Nat) → Reader Command
  | 0 => return .nothing
  | fuel + 1 => return (← moreCommands extent none fuel).getD .nothing

/-- Reads the commands that follow those `before`. -/
def moreCommands (extent : Extent) (before : Option Command) :
    (fuel : Nat) → Reader (Option Command)
  | 0 => return before
  | fuel + 1 => do
    let t ← token (extent != .line) true fuel
    match t with
    | .newline => return before
    | .finish =>
      hold t
      return before
    | _ => pure ()
    hold t
    if t.isEnd && (extent == .perhaps || (extent == .block && before.isSome)) then return before
    let c ← following (← pipeline fuel) fuel
    let next ← token false false fuel
    let c := match next with
      | .ampersand => .background c
      | _ => c
    let all := match before with
      | some b => .joined b .after c
      | none => c
    match next with
    | .finish =>
      hold next
      return some all
    | .newline =>
      hold next
      moreCommands extent (some all) fuel
    | .ampersand | .semicolon => moreCommands extent (some all) fuel
    | other =>
      if extent == .line then unexpected other none
      hold other
      return some all

end

end Reader

/-- What is enough to read some bytes. -/
def readingFuel (i : Input) : Nat := 16 * i.rest.length + 64

/-- Reads the commands of the next line; nothing if there is no line. -/
def readLine (i : Input) : Except Fault (Option (Command × Input)) := do
  let fuel := readingFuel i
  let (t, j) ← (Reader.token false true fuel).run i
  match t with
  | .finish => return none
  | t =>
    let (c, k) ← (Reader.list .line fuel).run { j with held := some t }
    return some (c, k)

end AmbientDecls.Toolbox.Shell
