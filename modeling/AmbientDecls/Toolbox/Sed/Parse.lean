import AmbientDecls.Toolbox.Regex.Parse
import AmbientDecls.Toolbox.Sed.Basic

/-!
# Reading editing scripts

How scripts are written. A fault tells how much of the script was left when it was found.
-/

namespace AmbientDecls.Toolbox.Sed

/-- What is wrong with a script. -/
inductive Fault where
  /-- Found while reading, with so many bytes left. -/
  | within (message : Bytes) (left : Nat)
  /-- Found when all is read. -/
  | whole (message : Bytes)
  /-- Found outside of any place, with a status of its own. -/
  | outside (message : Bytes) (status : Nat)
deriving DecidableEq, Repr, Inhabited

/-- A fault with some bytes left. -/
def faultAt {α : Type} (message : String) (rest : Bytes) : Except Fault α :=
  .error (.within message.toList rest.length)

def skipGap (t : Bytes) : Bytes := t.dropWhile isBlank

/-- What is left behind one byte at most. -/
def behind (t : Bytes) : Bytes := t.drop 1

/-- The inside of a bracketed set with its closing bracket, reversed onto what is read, and what
follows; or what is left where it breaks off. -/
def insideSet (isFirst : Bool) (read : Bytes) : (fuel : Nat) → Bytes →
    Except Bytes (Bytes × Bytes)
  | 0, t => .error t
  | _, [] => .error []
  | fuel + 1, c :: rest =>
    match c, rest with
    | '\n', _ => .error (c :: rest)
    | ']', _ =>
      if isFirst then insideSet false (']' :: read) fuel rest else .ok (']' :: read, rest)
    | '[', d :: inner =>
      if d = ':' || d = '.' || d = '=' then
        match Regex.upTo d ']' inner with
        | some (name, after) =>
          insideSet false (']' :: d :: (name.reverse ++ d :: '[' :: read)) fuel after
        | none => .error []
      else insideSet false ('[' :: read) fuel rest
    | '\\', 'n' :: after => insideSet false ('\n' :: read) fuel after
    | c, _ => insideSet false (c :: read) fuel rest

/-- The bytes of a field up to its delimiter, and what follows that; or what is left where the
field breaks off. The backslash before a delimiter goes. In an expression the delimiter may stand in
sets too, and line breaks are written by their letter. -/
def fieldUpTo (isExpression : Bool) (delimiter : Char) (read : Bytes) : (fuel : Nat) → Bytes →
    Except Bytes (Bytes × Bytes)
  | 0, t => .error t
  | _, [] => .error []
  | fuel + 1, c :: rest =>
    if c = delimiter then .ok (read.reverse, rest)
    else
      match c, rest with
      | '\n', _ => .error (c :: rest)
      | '\\', [] => .error []
      | '\\', d :: rest =>
        let kept :=
          if d = '\n' || (d = delimiter && (isExpression || d ≠ '&')) then [d]
          else if isExpression && d = 'n' then ['\n']
          else [d, '\\']
        fieldUpTo isExpression delimiter (kept ++ read) fuel rest
      | c, rest =>
        if isExpression && c = '[' then
          let (front, inner) := match rest with
            | '^' :: inner => (['^', '['], inner)
            | inner => (['['], inner)
          match insideSet true (front ++ read) (inner.length + 1) inner with
          | .ok (read, rest) => fieldUpTo isExpression delimiter read fuel rest
          | .error rest => .error rest
        else fieldUpTo isExpression delimiter (c :: read) fuel rest

/-- A field behind its opening delimiter, or the fault that it has no end. -/
def field (isExpression : Bool) (message : String) (delimiter : Char) (t : Bytes) :
    Except Fault (Bytes × Bytes) :=
  match fieldUpTo isExpression delimiter [] (t.length + 1) t with
  | .ok found => .ok found
  | .error rest => faultAt message rest

/-- A byte by its number in a base, and what follows. -/
def coded? (value? : Char → Option Nat) (base count : Nat) (t : Bytes) : Option (Char × Bytes) :=
  let (n, after) := digits value? base 0 count t
  if after.length < t.length then some (Char.ofNat (n % 256), after) else none

/-- The byte that an escape with a letter or a number stands for, and what follows. -/
def numbered? : Bytes → Option (Char × Bytes)
  | 'a' :: rest => some ('\x07', rest)
  | 'f' :: rest => some ('\x0c', rest)
  | 'r' :: rest => some ('\r', rest)
  | 't' :: rest => some ('\t', rest)
  | 'v' :: rest => some ('\x0b', rest)
  | 'c' :: c :: rest => some (Char.ofNat (Nat.xor c.toUpper.toNat 64 % 256), rest)
  | 'd' :: rest => coded? decimal? 10 3 rest
  | 'o' :: rest => coded? octal? 8 3 rest
  | 'x' :: rest => coded? hexadecimal? 16 2 rest
  | _ => none

/-- An expression with the bytes that escapes stand for. -/
def normalized : (fuel : Nat) → Bytes → Bytes
  | 0, t => t
  | _, [] => []
  | fuel + 1, '\\' :: rest =>
    match numbered? rest, rest with
    | some (c, after), _ => c :: normalized fuel after
    | none, c :: after => '\\' :: c :: normalized fuel after
    | none, [] => ['\\']
  | fuel + 1, c :: rest => c :: normalized fuel rest

/-- Text with its escapes read: a line break is written by its letter, and any other byte behind a
backslash stands for itself. -/
def unescapedText : (fuel : Nat) → Bytes → Bytes
  | 0, t => t
  | _, [] => []
  | fuel + 1, '\\' :: rest =>
    match numbered? rest, rest with
    | some (c, after), _ => c :: unescapedText fuel after
    | none, 'n' :: after => '\n' :: unescapedText fuel after
    | none, c :: after => c :: unescapedText fuel after
    | none, [] => []
  | fuel + 1, c :: rest => c :: unescapedText fuel rest

/-- The pieces of a replacement. The case of the first letter is for the next piece only; `text` is
the text before the next sign, reversed. -/
def pieces (lasting now : Casing) (first : Casing) (text : Bytes) : (fuel : Nat) → Bytes →
    List Piece
  | 0, _ => []
  | fuel + 1, t =>
    let piece := fun (group : Option Nat) => (⟨text.reverse, group, now, first⟩ : Piece)
    let cut := fun (p : Piece) (rest : Bytes) => p :: pieces lasting lasting .same [] fuel rest
    match t with
    | [] => if text.isEmpty then [] else [piece none]
    | '&' :: rest => cut (piece (some 0)) rest
    | ['\\'] => [{ piece none with text := (('\\' :: text).reverse) }]
    | '\\' :: c :: rest =>
      match numbered? (c :: rest) with
      | some (d, after) => pieces lasting now first (d :: text) fuel after
      | none =>
        if c.isDigit then cut (piece (some (c.toNat - '0'.toNat))) rest
        else match c with
          | 'L' => piece none :: pieces .lower .lower .same [] fuel rest
          | 'U' => piece none :: pieces .upper .upper .same [] fuel rest
          | 'E' => piece none :: pieces .same .same .same [] fuel rest
          | 'l' => piece none :: pieces lasting lasting .lower [] fuel rest
          | 'u' => piece none :: pieces lasting lasting .upper [] fuel rest
          | 'n' => cut { piece none with text := ('\n' :: text).reverse } rest
          | c => cut { piece none with text := (c :: text).reverse } rest
    | c :: rest => pieces lasting now first (c :: text) fuel rest

/-- A pattern; an empty one stands for the one used last. -/
def pattern (style : RegexStyle) (t left : Bytes) : Except Fault (Option Regex × Nat) :=
  if t.isEmpty then
    if style.fold || style.multiline then
      faultAt "cannot specify modifiers on empty regexp" left
    else .ok (none, 9)
  else match Regex.parse style (normalized (t.length + 1) t) with
    | .ok (r, groups) => .ok (some r, groups)
    | .error .bareClass => .error (.outside RegexFault.bareClass.message.toList 4)
    | .error fault => faultAt fault.message left

/-- How scripts are read. -/
structure Manner where
  regex : RegexStyle := {}
  /-- Whether lines end with null bytes, so that no anchors match at line breaks. -/
  zeroEnded : Bool := false
  /-- Whether commands that read, write or run anything else are refused. -/
  sandboxed : Bool := false

/-- The end of reading if a command is refused. -/
def Manner.refuse (m : Manner) (left : Bytes) : Except Fault Unit :=
  if m.sandboxed then faultAt "e/r/w commands disabled in sandbox mode" left else .ok ()

/-- The flags of an address pattern, and what follows them. -/
def addressFlags (m : Manner) (style : RegexStyle) : (fuel : Nat) → Bytes → RegexStyle × Bytes
  | 0, t => (style, t)
  | fuel + 1, t =>
    match skipGap t with
    | 'I' :: rest => addressFlags m { style with fold := true } fuel rest
    | 'M' :: rest => addressFlags m { style with multiline := ! m.zeroEnded } fuel rest
    | rest => (style, rest)

/-- A number, and what follows it. -/
def integer (t : Bytes) : Nat × Bytes := digits decimal? 10 0 t.length t

/-- An address, if one comes next, and the rest. -/
def address? (m : Manner) (t : Bytes) : Except Fault (Option Address × Bytes) := do
  let ofPattern := fun (delimiter : Char) (rest : Bytes) => do
    let (expression, rest) ← field true "unterminated address regex" delimiter rest
    let (style, rest) := addressFlags m m.regex (rest.length + 1) rest
    let (r, _) ← pattern style expression rest
    pure (some (Address.pattern r), rest)
  match t with
  | '$' :: rest => return (some .last, rest)
  | '/' :: rest => ofPattern '/' rest
  | ['\\'] => faultAt "unterminated address regex" []
  | '\\' :: d :: rest => ofPattern d rest
  | '+' :: rest =>
    let (n, rest) := integer (skipGap rest)
    return (some (.more n), rest)
  | '~' :: rest =>
    let (n, rest) := integer (skipGap rest)
    return (some (.multiple n), rest)
  | c :: _ =>
    if ! c.isDigit then return (none, t)
    let (n, rest) := integer t
    match skipGap rest with
    | '~' :: rest =>
      let (step, rest) := integer (skipGap rest)
      return (some (if step = 0 then .line n else .every n step), rest)
    | rest => return (some (.line n), rest)
  | [] => return (none, [])

/-- Whether what follows ends a command: what is left is behind the sign of the end, if that is not
a sign of its own. -/
def commandEnd (t : Bytes) : Except Fault Bytes :=
  match skipGap t with
  | [] => .ok []
  | '\x7d' :: rest => .ok ('\x7d' :: rest)
  | '#' :: rest => .ok ('#' :: rest)
  | '\n' :: rest => .ok rest
  | ';' :: rest => .ok rest
  | _ :: rest => faultAt "extra characters after command" rest

/-- The name of a file up to the end of the line, and what follows that. -/
def fileName (t : Bytes) : Except Fault (Bytes × Bytes) :=
  let t := skipGap t
  let name := t.takeWhile (· != '\n')
  let rest := behind (t.drop name.length)
  if name.isEmpty then faultAt "missing filename in r/R/w/W commands" rest else .ok (name, rest)

/-- The text up to a line break that has no backslash in front, and what follows. -/
def textLine (read : Bytes) : (fuel : Nat) → Bytes → Bytes × Bytes
  | 0, t => (read.reverse, t)
  | _, [] => (read.reverse, [])
  | _, ['\\'] => (read.reverse, [])
  | fuel + 1, '\\' :: c :: rest => textLine (c :: '\\' :: read) fuel rest
  | _, '\n' :: rest => (read.reverse, rest)
  | fuel + 1, c :: rest => textLine (c :: read) fuel rest

/-- The text of a command, and what follows it. Blanks before it go, unless they stand behind a
backslash. -/
def text (t : Bytes) : Except Fault (Bytes × Bytes) :=
  let start := match skipGap t with
    | [] => none
    | ['\\'] => some none
    | '\\' :: rest =>
      match skipGap rest with
      | '\n' :: after => some (some after)
      | _ => some (some rest)
    | rest => some (some rest)
  match start with
  | none => faultAt "expected \\ after \x60a', \x60c' or \x60i'" []
  | some none => .ok ([], [])
  | some (some t) =>
    let (line, rest) := textLine [] (t.length + 1) t
    .ok (unescapedText (line.length + 1) line ++ ['\n'], rest)

def label (t : Bytes) : Bytes × Bytes :=
  let t := skipGap t
  let name := t.takeWhile fun c => ! (isSpace c || c == ';' || c == '\x7d')
  (name, t.drop name.length)

structure Flags where
  style : RegexStyle
  nth : Option Nat := none
  everywhere : Bool := false
  print : Bool := false
  evaluate : Bool := false
  printsFirst : Bool := false
  target : Option Bytes := none

/-- Reads the flags of a replacement, and what follows them. -/
def flags (m : Manner) (f : Flags) : (fuel : Nat) → Bytes → Except Fault (Flags × Bytes)
  | 0, t => .ok (f, t)
  | fuel + 1, t => do
    match t with
    | [] => return (f, [])
    | 'i' :: rest | 'I' :: rest =>
      flags m { f with style := { f.style with fold := true } } fuel rest
    | 'm' :: rest | 'M' :: rest =>
      flags m { f with style := { f.style with multiline := ! m.zeroEnded } } fuel rest
    | 'p' :: rest =>
      if f.print then faultAt "multiple \x60p' options to \x60s' command" rest
      else flags m { f with print := true, printsFirst := ! f.evaluate } fuel rest
    | 'e' :: rest =>
      m.refuse rest
      flags m { f with evaluate := true } fuel rest
    | 'g' :: rest =>
      if f.everywhere then faultAt "multiple \x60g' options to \x60s' command" rest
      else flags m { f with everywhere := true } fuel rest
    | 'w' :: rest =>
      m.refuse rest
      let (name, rest) ← fileName rest
      return ({ f with target := some name }, rest)
    | '\x7d' :: _ | '#' :: _ => return (f, t)
    | '\n' :: rest | ';' :: rest | '\r' :: '\n' :: rest => return (f, rest)
    | c :: rest =>
      if c.isDigit then
        if f.nth.isSome then faultAt "multiple number options to \x60s' command" rest
        else
          let (n, rest) := integer t
          if n = 0 then faultAt "number option to \x60s' command may not be zero" rest
          else flags m { f with nth := some n } fuel rest
      else if isBlank c then flags m f fuel rest
      else faultAt "unknown option to \x60s'" rest

/-- A replacement behind its letter. -/
def substitution (m : Manner) (t : Bytes) : Except Fault (Substitution × Bytes) := do
  let unterminated := "unterminated \x60s' command"
  let delimiter :: rest := t | faultAt unterminated []
  if delimiter = '\n' || delimiter = '\\' then faultAt unterminated rest
  let (expression, rest) ← field true unterminated delimiter rest
  let (replacement, rest) ← field false unterminated delimiter rest
  let pieces := pieces .same .same .same [] (replacement.length + 1) replacement
  let (f, rest) ← flags m { style := m.regex } (rest.length + 1) rest
  let (r, groups) ← pattern f.style expression rest
  let most := (pieces.filterMap (·.group)).foldl max 0
  if groups < most then
    faultAt ("invalid reference \\" ++ toString most ++ " on \x60s' command's RHS") rest
  return ({
    pattern := r, pieces, nth := f.nth.getD 1, everywhere := f.everywhere, print := f.print
    evaluate := f.evaluate, printsFirst := f.printsFirst, target := f.target }, rest)

/-- The bytes of a field whose bytes are translated. -/
def translated : (fuel : Nat) → Bytes → Bytes
  | 0, t => t
  | _, [] => []
  | fuel + 1, '\\' :: rest =>
    match numbered? rest, rest with
    | some (c, after), _ => c :: translated fuel after
    | none, 'n' :: after => '\n' :: translated fuel after
    | none, c :: after => c :: translated fuel after
    | none, [] => ['\\']
  | fuel + 1, c :: rest => c :: translated fuel rest

def translation (t : Bytes) : Except Fault (List (Char × Char) × Bytes) := do
  let unterminated := "unterminated \x60y' command"
  let delimiter :: rest := t | faultAt unterminated []
  if delimiter = '\n' || delimiter = '\\' then faultAt unterminated rest
  let (source, rest) ← field false unterminated delimiter rest
  let (target, rest) ← field false unterminated delimiter rest
  let source := translated (source.length + 1) source
  let target := translated (target.length + 1) target
  if source.length ≠ target.length then
    faultAt "strings for \x60y' command are different lengths" rest
  return (source.zip target, ← commandEnd rest)

/-- A command as it is written, before places are known. -/
inductive Written where
  | command (c : Command)
  | opening (c : Command)
  | closing
  | label (name : Bytes)
  | jump (c : Command) (condition : Jump) (name : Bytes)
deriving Repr, Inhabited

/-- The command without what it does. -/
structure Front where
  first : Option Address := none
  last : Option Address := none
  inverted : Bool := false

def Front.doing (f : Front) (action : Action) : Command := ⟨f.first, f.last, f.inverted, action⟩

/-- Reads the addresses of a command, and what follows. -/
def front (m : Manner) (t : Bytes) : Except Fault (Front × Bytes) := do
  let (first, rest) ← address? m t
  match first with
  | some (.more _) | some (.multiple _) =>
    faultAt "invalid usage of +N or ~N as first address" rest
  | _ => pure ()
  let (last, rest) ← match first, skipGap rest with
    | some _, ',' :: rest =>
      match ← address? m (skipGap rest) with
      | (some a, rest) => pure (some a, skipGap rest)
      | (none, rest) => faultAt "unexpected \x60,'" (behind rest)
    | some _, rest => pure (none, rest)
    | none, _ => pure (none, rest)
  match first, last with
  | some (.line 0), some (.pattern _) => pure ()
  | some (.line 0), _ => faultAt "invalid usage of line address 0" (behind rest)
  | _, _ => pure ()
  match rest with
  | '!' :: rest =>
    match skipGap rest with
    | '!' :: rest => faultAt "multiple \x60!'s" rest
    | rest => return (⟨first, last, true⟩, rest)
  | rest => return (⟨first, last, false⟩, rest)

/-- Reads a command behind its addresses, with `depth` blocks open; tells what it is, how many
blocks are open then, and what follows. -/
def command (m : Manner) (depth : Nat) (f : Front) (t : Bytes) :
    Except Fault (Written × Nat × Bytes) := do
  let plain := fun (a : Action) (rest : Bytes) => do
    return (Written.command (f.doing a), depth, ← commandEnd rest)
  let done := fun (a : Action) (rest : Bytes) =>
    (Written.command (f.doing a), depth, rest)
  let named := fun (make : Bytes → Action) (rest : Bytes) => do
    m.refuse rest
    let (name, rest) ← fileName rest
    return done (make name) rest
  let counted := fun (make : Option Nat → Action) (rest : Bytes) =>
    let rest := skipGap rest
    let (n, after) := integer rest
    plain (make (if after.length < rest.length then some n else none)) after
  match t with
  | [] => faultAt "missing command" []
  | '\x7b' :: rest => return (.opening (f.doing .nothing), depth + 1, rest)
  | '\x7d' :: rest =>
    if depth = 0 then faultAt "unexpected \x60\x7d'" rest
    if f.first.isSome then faultAt "\x7d doesn't want any addresses" rest
    return (.closing, depth - 1, ← commandEnd rest)
  | ':' :: rest =>
    if f.first.isSome then faultAt ": doesn't want any addresses" rest
    let (name, rest) := label rest
    if name.isEmpty then faultAt "\":\" lacks a label" rest
    return (.label name, depth, rest)
  | 'b' :: rest =>
    let (name, rest) := label rest
    return (.jump (f.doing .nothing) .always name, depth, rest)
  | 't' :: rest =>
    let (name, rest) := label rest
    return (.jump (f.doing .nothing) .ifReplaced name, depth, rest)
  | 'T' :: rest =>
    let (name, rest) := label rest
    return (.jump (f.doing .nothing) .ifNotReplaced name, depth, rest)
  | 'a' :: rest => let (text, rest) ← text rest; return done (.append text) rest
  | 'i' :: rest => let (text, rest) ← text rest; return done (.insert text) rest
  | 'c' :: rest => let (text, rest) ← text rest; return done (.change text) rest
  | 'd' :: rest => plain .delete rest
  | 'D' :: rest => plain .deleteFirst rest
  | 'p' :: rest => plain .print rest
  | 'P' :: rest => plain .printFirst rest
  | 'n' :: rest => plain .next rest
  | 'N' :: rest => plain .nextAppended rest
  | 'q' :: rest =>
    if f.last.isSome then faultAt "command only uses one address" rest
    counted (fun n => .quit (n.getD 0)) rest
  | 'Q' :: rest =>
    if f.last.isSome then faultAt "command only uses one address" rest
    counted (fun n => .quitSilently (n.getD 0)) rest
  | 'l' :: rest => counted .list rest
  | 'r' :: rest => named .readFile rest
  | 'R' :: rest => named .readLine rest
  | 'w' :: rest => named .writeFile rest
  | 'W' :: rest => named .writeFirst rest
  | 'e' :: rest =>
    m.refuse rest
    match skipGap rest with
    | [] => return done .evaluate []
    | '\n' :: rest => return done .evaluate rest
    | _ =>
      let (script, rest) ← text rest
      return done (.run script) rest
  | 's' :: rest =>
    let (s, rest) ← substitution m rest
    return done (.substitute s) rest
  | 'y' :: rest =>
    let (pairs, rest) ← translation rest
    return done (.translate pairs) rest
  | '=' :: rest => plain .number rest
  | 'F' :: rest => plain .name rest
  | 'z' :: rest => plain .zap rest
  | 'g' :: rest => plain .get rest
  | 'G' :: rest => plain .getAppended rest
  | 'h' :: rest => plain .hold rest
  | 'H' :: rest => plain .holdAppended rest
  | 'x' :: rest => plain .exchange rest
  | c :: rest => .error (.within ("unknown command: \x60".toList ++ [c, '\'']) rest.length)

def versionNumber (version : Bytes) : Nat :=
  let parts := ((String.ofList version).splitOn ".").map fun part => (number? part.toList).getD 0
  (parts.getD 0 0 * 1000 + parts.getD 1 0) * 1000 + parts.getD 2 0

def newest : Nat := versionNumber "4.9".toList

/-- Reads the commands of a script onto those `read`, with `depth` blocks open. -/
def commands (m : Manner) (read : List Written) (depth : Nat) : (fuel : Nat) → Bytes →
    Except Fault (List Written × Nat)
  | 0, _ => .ok (read, depth)
  | fuel + 1, t => do
    let t := t.dropWhile fun c => isSpace c || c == ';'
    if t.isEmpty then return (read, depth)
    let (f, rest) ← front m t
    match rest with
    | '#' :: rest =>
      if f.first.isSome then faultAt "comments don't accept any addresses" rest
      commands m read depth fuel (rest.dropWhile (· != '\n'))
    | 'v' :: rest =>
      let (version, rest) := label rest
      if newest < versionNumber version then faultAt "expected newer version of sed" rest
      commands m read depth fuel rest
    | rest =>
      let (c, depth, rest) ← command m depth f rest
      commands m (c :: read) depth fuel rest

/-- The place behind the end of the block that is open before some commands. -/
def blockEnd (place depth : Nat) : List Written → Nat
  | [] => place
  | .closing :: rest => if depth = 0 then place + 1 else blockEnd (place + 1) (depth - 1) rest
  | .opening _ :: rest => blockEnd (place + 1) (depth + 1) rest
  | _ :: rest => blockEnd (place + 1) depth rest

/-- The place of a label; where there is no name, that is the end. -/
def placeOf? (name : Bytes) (all : List Written) : Option Nat :=
  if name.isEmpty then some all.length
  else all.findIdx? fun
    | .label n => n == name
    | _ => false

def placed (all : List Written) (place : Nat) : List Written → Except Fault (List Command)
  | [] => .ok []
  | c :: rest => do
    let here ← match c with
      | .command c => pure c
      | .opening c => pure { c with action := .block (blockEnd (place + 1) 0 rest) }
      | .closing | .label _ => pure { action := .nothing }
      | .jump c condition name =>
        match placeOf? name all with
        | some target => pure { c with action := .jump condition target }
        | none => .error (.outside
            ("can't find label for jump to \x60".toList ++ name ++ ['\'']) 4)
    return here :: (← placed all (place + 1) rest)

/-- A part of a script, and the file it comes from or the number that it has among those that do
not. -/
structure Part where
  file : Option Bytes
  number : Nat
  text : Bytes

/-- Whether the first line of a script asks for no output. In a file it has to do so alone. -/
def Part.asksQuiet (p : Part) : Bool :=
  match p.text with
  | '#' :: 'n' :: rest => p.file.isNone || rest.isEmpty || rest.head? == some '\n'
  | _ => false

/-- The message of a fault in a part of a script, and the status that goes with it. -/
def Part.message (p : Part) : Fault → Bytes × Nat
  | .outside message status => ("sed: ".toList ++ message, status)
  | .whole message =>
    ("sed: -e expression #".toList ++ decimal p.number ++ ", char 0: ".toList ++ message, 1)
  | .within message left =>
    let read := p.text.length - left
    match p.file with
    | some name =>
      ("sed: file ".toList ++ name ++ " line ".toList ++
        decimal (((p.text.take read).countP (· == '\n')) + 1) ++ ": ".toList ++ message, 1)
    | none =>
      ("sed: -e expression #".toList ++ decimal p.number ++ ", char ".toList ++ decimal read ++
        ": ".toList ++ message, 1)

/-- Whether a part ends in a backslash that the next part belongs to. -/
def endsOpen (t : Bytes) : Bool := (t.reverse.takeWhile (· == '\\')).length % 2 == 1

/-- The parts, where one that ends open is one with the next. -/
def joinedParts : List Part → List Part
  | p :: rest =>
    match joinedParts rest with
    | q :: more =>
      if endsOpen p.text then { p with text := p.text ++ '\n' :: q.text } :: more
      else p :: q :: more
    | [] => [p]
  | [] => []

def parse (m : Manner) (parts : List Part) : Except (Bytes × Nat) Script := do
  let parts := joinedParts parts
  let step := fun (state : List Written × Nat) (p : Part) =>
    (commands m state.1 state.2 (p.text.length + 1) p.text).mapError p.message
  let (read, depth) ← parts.foldlM step ([], 0)
  let last : Part := (parts.getLast?).getD ⟨none, 1, []⟩
  if depth ≠ 0 then throw (last.message (.whole "unmatched \x60\x7b'".toList))
  let all := read.reverse
  let commands ← (placed all 0 all).mapError last.message
  return { commands := commands.toArray, quiet := (parts.head?.map (·.asksQuiet)).getD false }

end AmbientDecls.Toolbox.Sed
