import AmbientDecls.Toolbox.Options

/-!
# Tools for columns

Tools that cut parts out of lines, put lines side by side, and change how wide lines are.
-/

namespace AmbientDecls.Toolbox

/-- A range of positions from one on; one without end goes on for ever. -/
structure Span where
  first : Nat
  last : Option Nat
deriving DecidableEq, Repr, Inhabited

namespace Span

/-- Whether a position is in a range. -/
def holds (s : Span) (n : Nat) : Bool := s.first ≤ n && s.last.all (n ≤ ·)

def items (list : Bytes) : List Bytes := Text.split (fun c => c == ',' || isBlank c) list
where isBlank (c : Char) : Bool := c == ' ' || c == '\t'

structure Words where
  numbered : String
  range : String
  value : String
  number : String
deriving Repr

def fieldWords : Words := ⟨"fields are", "field range", "field value", "field number"⟩

def byteWords : Words :=
  ⟨"byte/character positions are", "byte or character range", "byte/character position",
    "byte/character offset"⟩

/-- The greatest position. -/
def most : Nat := 18446744073709551614

/-- Reads one range of a list; `rest` is the list from there on, for messages. -/
def ofItem (w : Words) (rest item : Bytes) : Except Bytes Span :=
  let first := item.takeWhile Char.isDigit
  let large := fun figures : Bytes =>
    .error (w.number.toList ++ ' ' :: quoted figures ++ " is too large".toList)
  let zero : Except Bytes Span := .error (w.numbered ++ " numbered from 1").toList
  let strange := fun place : Nat =>
    .error (("invalid " ++ w.value ++ " ").toList ++ quoted (rest.drop place))
  match item.drop first.length with
  | [] =>
    match number? first with
    | some 0 | none => zero
    | some n => if most < n then large first else .ok ⟨n, some n⟩
  | '-' :: more =>
    if number? first = some 0 then zero
    else if (number? first).any (most < ·) then large first
    else
      let last := more.takeWhile Char.isDigit
      match more.drop last.length with
      | [] =>
        let low := (number? first).getD 1
        match number? last with
        | none =>
          if first.isEmpty then .error "invalid range with no endpoint: -".toList
          else .ok ⟨low, none⟩
        | some high =>
          if most < high then large last
          else if high < low then .error "invalid decreasing range".toList else .ok ⟨low, some high⟩
      | '-' :: _ => .error ("invalid " ++ w.range).toList
      | _ => strange (first.length + 1 + last.length)
  | _ => strange first.length

def ofItems (w : Words) (list : Bytes) : List Bytes → Except Bytes (List Span)
  | [] => .ok []
  | item :: rest => do
    let span ← ofItem w list item
    let spans ← ofItems w (list.drop (item.length + 1)) rest
    return span :: spans

/-- Ranges in order, where those that overlap are one. -/
def merged : List Span → List Span
  | s :: rest =>
    match merged rest with
    | t :: more =>
      if s.last.all (t.first ≤ ·) then
        let last := match s.last, t.last with
          | some a, some b => some (max a b)
          | _, _ => none
        ⟨s.first, last⟩ :: more
      else s :: t :: more
    | [] => [s]
  | [] => []

def ofList (w : Words) (list : Bytes) : Except Bytes (List Span) := do
  let spans ← ofItems w list (items list)
  return merged (spans.mergeSort fun s t => s.first ≤ t.first)

/-- The ranges between and around some others, from a position on. -/
def complement (next : Nat) : List Span → List Span
  | [] => [⟨next, none⟩]
  | s :: rest =>
    let before := if next < s.first then [⟨next, some (s.first - 1)⟩] else []
    match s.last with
    | none => before
    | some last => before ++ complement (last + 1) rest

end Span

/-- The bytes at chosen positions, with a separator between the ranges if there is one. -/
def cutBytes (spans : List Span) (separator : Bytes) (line : Bytes) : Bytes :=
  let parts := spans.map fun s =>
    (line.drop (s.first - 1)).take ((s.last.getD line.length) - (s.first - 1))
  Text.join separator (parts.filter (! ·.isEmpty))

/-- The fields at chosen places; a line without a delimiter is one that is always chosen, if it is
not left out. -/
def cutFields (spans : List Span) (delimiter : Char) (separator : Bytes) (onlyDelimited : Bool)
    (line : Bytes) : Option Bytes :=
  match Text.split (· == delimiter) line with
  | [_] => if onlyDelimited then none else some line
  | fields =>
    let chosen := fields.zipIdx.filterMap fun (f, i) =>
      if spans.any (·.holds (i + 1)) then some f else none
    some (Text.join separator chosen)

/-- Cuts parts out of the lines of its operands. -/
def cut : Tool := withOptions "cut"
  [⟨'b', "bytes", .value, true⟩, ⟨'c', "characters", .value, true⟩, ⟨'f', "fields", .value, true⟩,
    ⟨'d', "delimiter", .value, true⟩, ⟨'n', "", .nothing, true⟩,
    ⟨'s', "only-delimited", .nothing, true⟩, ⟨'o', "output-delimiter", .value, false⟩,
    ⟨'C', "complement", .nothing, false⟩, ⟨'z', "zero-terminated", .nothing, true⟩] 1
  fun j p =>
    let lists := p.all 'b' ++ p.all 'c' ++ p.all 'f'
    let byFields := p.has 'f'
    let longDelimiter := (p.all 'd').any fun d => 1 < d.length
    let terminator := if p.has 'z' then '\x00' else '\n'
    match lists with
    | _ :: _ :: _ => j.misused "cut" "only one list may be specified".toList 1
    | [] =>
      if longDelimiter then j.misused "cut" "the delimiter must be a single character".toList 1
      else j.misused "cut" "you must specify a list of bytes, characters, or fields".toList 1
    | [list] =>
      if longDelimiter then j.misused "cut" "the delimiter must be a single character".toList 1
      else if ! byFields && p.has 'd' then
        j.misused "cut"
          "an input delimiter may be specified only when operating on fields".toList 1
      else if ! byFields && p.has 's' then
        j.misused "cut"
          ("suppressing non-delimited lines makes sense\n" ++
            "\tonly when operating on fields").toList 1
      else
        match Span.ofList (if byFields then Span.fieldWords else Span.byteWords) list with
        | .error problem => j.misused "cut" problem 1
        | .ok spans =>
          let spans := if p.has 'C' then Span.complement 1 spans else spans
          let delimiter := match p.last? 'd' with
            | some [c] => c
            | some _ => '\x00'
            | none => '\t'
          let separator := (p.last? 'o').getD (if byFields then [delimiter] else [])
          let ended := j.each p.operands (unreadable "cut") fun sources =>
            joinLines terminator (sources.flatMap fun (_, b) =>
              (bareLines terminator b).filterMap fun line =>
                if byFields then cutFields spans delimiter separator (p.has 's') line
                else some (cutBytes spans separator line))
          ended

/-- Where tabs stop: at some columns, and then at regular ones. -/
structure TabStops where
  fixed : List Nat := []
  /-- The distance of the regular stops; none if there are no more. -/
  every : Option Nat := some 8
  /-- Whether the regular stops are counted from the last fixed one. -/
  fromLast : Bool := false

namespace TabStops

/-- The first stop behind a column. -/
def next? (t : TabStops) (column : Nat) : Option Nat :=
  match t.fixed.find? (column < ·), t.every with
  | some stop, _ => some stop
  | none, none => none
  | none, some every =>
    let start := if t.fromLast then t.fixed.getLast?.getD 0 else 0
    some (start + ((column - start) / every + 1) * every)

/-- Reads a list of stops onto others. -/
def addItem (t : TabStops × Bool) (item : Bytes) : Except Bytes (TabStops × Bool) :=
  let (stops, _) := t
  let figures := match item with
    | '/' :: rest => rest
    | '+' :: rest => rest
    | rest => rest
  match number? figures, item.head? with
  | none, _ =>
    .error ("tab size contains invalid character(s): ".toList ++
      quoted (figures.dropWhile Char.isDigit))
  | some n, some '/' => .ok ({ stops with every := some n }, true)
  | some n, some '+' => .ok ({ stops with every := some n, fromLast := true }, true)
  | some 0, _ => .error "tab size cannot be 0".toList
  | some n, _ =>
    if stops.fixed.any (n ≤ ·) then .error "tab sizes must be ascending".toList
    else .ok ({ stops with fixed := stops.fixed ++ [n] }, t.2)

/-- The stops that some lists ask for. A single number is the distance of all stops. -/
def ofLists (lists : List Bytes) : Except Bytes TabStops := do
  let items := (lists.flatMap Span.items).filter (! ·.isEmpty)
  let (stops, regular) ← items.foldlM addItem ({ every := none }, false)
  match stops.fixed, regular with
  | [], false => return {}
  | [n], false => return { every := some n }
  | _, _ => return stops

end TabStops

/-- Writes spaces for tabs in one line; `initial` tells that only blanks came so far, and with
`onlyInitial` nothing else is changed. -/
def expandLine (stops : TabStops) (onlyInitial : Bool) (column : Nat) (initial : Bool) :
    Bytes → Bytes
  | [] => []
  | c :: rest =>
    if onlyInitial && ! initial then c :: expandLine stops onlyInitial column initial rest
    else if c = '\t' then
      let stop := (stops.next? column).getD (column + 1)
      List.replicate (stop - column) ' ' ++ expandLine stops onlyInitial stop initial rest
    else if c = '\x08' then c :: expandLine stops onlyInitial (column - 1) false rest
    else c :: expandLine stops onlyInitial (column + 1) (initial && c == ' ') rest

/-- The options `-8` and the like in their new form. -/
def modernTabs (args : List Bytes) : List Bytes :=
  args.map fun arg =>
    match arg with
    | '-' :: rest =>
      if ! rest.isEmpty && rest.all (fun c => c.isDigit || c == ',') then '-' :: 't' :: rest
      else arg
    | _ => arg

/-- Writes spaces for the tabs of its operands. -/
def expand : Tool := fun j => withOptions "expand"
  [⟨'i', "initial", .nothing, true⟩, ⟨'t', "tabs", .value, true⟩] 1
  (fun j p =>
    match TabStops.ofLists (p.all 't') with
    | .error problem => j.refuse ("expand: ".toList ++ problem) 1
    | .ok stops =>
      j.filter "expand" p.operands fun b =>
        (linesOf '\n' b).flatMap (expandLine stops (p.has 'i') 0 true))
  { j with args := modernTabs j.args }

/-- How far writing tabs for spaces has come in a line. -/
structure Unexpanding where
  column : Nat := 0
  /-- The blanks that are not written yet. -/
  pending : Bytes := []
  /-- Whether one of them is the last one before a stop. -/
  atStop : Bool := false
  /-- Whether the byte before was a blank, or there was none. -/
  afterBlank : Bool := true
  converting : Bool := true
  /-- What is written, reversed. -/
  written : Bytes := []

namespace Unexpanding

/-- Writes the blanks that wait, and then a byte. -/
def write (u : Unexpanding) (c : Char) (isBlank converting : Bool) : Unexpanding :=
  let pending := match u.pending with
    | _ :: b :: rest => if u.atStop then '\t' :: b :: rest else u.pending
    | few => few
  { u with
    written := c :: (pending.reverse ++ u.written), pending := []
    atStop := u.atStop && pending.isEmpty, afterBlank := isBlank, converting }

/-- A tab instead of the blanks that wait, but for a single one before the stop before. -/
def tab (u : Unexpanding) (column : Nat) : Unexpanding :=
  { u with column, pending := if u.atStop && ! u.pending.isEmpty then ['\t'] else [] }

/-- Takes one byte of a line. Two blanks or more before a stop become a tab. -/
def step (stops : TabStops) (all : Bool) (u : Unexpanding) (c : Char) : Unexpanding :=
  if ! u.converting then { u with written := c :: u.written }
  else if c = ' ' || c = '\t' then
    match stops.next? u.column with
    | none => u.write c true false
    | some stop =>
      if c = '\t' then (u.tab stop).write c true true
      else if u.afterBlank && u.column + 1 = stop then (u.tab stop).write '\t' true true
      else
        { u with
          column := u.column + 1, pending := u.pending ++ [c], afterBlank := true
          atStop := u.atStop || u.column + 1 = stop }
  else
    { u with column := if c = '\x08' then u.column - 1 else u.column + 1 }.write c false all

def line (stops : TabStops) (all : Bool) (line : Bytes) : Bytes :=
  let bare := chomp '\n' line
  let last := bare.foldl (step stops all) {}
  ((last.write '\n' false true).written.drop 1).reverse ++ line.drop bare.length

end Unexpanding

/-- How far folding has come: the line that is not full yet, reversed, its width, and the lines
that are, reversed. -/
structure Folding where
  current : Bytes := []
  column : Nat := 0
  written : List Bytes := []

namespace Folding

def advance (inBytes : Bool) (column : Nat) (c : Char) : Nat :=
  if inBytes then column + 1
  else if c = '\x08' then column - 1
  else if c = '\r' then 0
  else if c = '\t' then column / 8 * 8 + 8
  else column + 1

/-- Takes one byte of a line. A full line ends before it, or with `atSpaces` behind its last
blank. -/
def step (width : Nat) (inBytes atSpaces : Bool) (f : Folding) (c : Char) : Folding :=
  let column := advance inBytes f.column c
  if column ≤ width then { f with current := c :: f.current, column }
  else
    let tail := f.current.takeWhile fun c => ! (c == ' ' || c == '\t')
    if atSpaces && tail.length < f.current.length then
      let front := f.current.drop tail.length
      let written := front.reverse :: f.written
      let column := tail.reverse.foldl (advance inBytes) 0
      let next := advance inBytes column c
      if next ≤ width || tail.isEmpty then { current := c :: tail, column := next, written }
      else { current := [c], column := advance inBytes 0 c, written := tail.reverse :: written }
    else if f.current.isEmpty then { f with current := [c], column }
    else
      { current := [c], column := advance inBytes 0 c, written := f.current.reverse :: f.written }

/-- A line in pieces that are no wider than allowed. -/
def line (width : Nat) (inBytes atSpaces : Bool) (line : Bytes) : Bytes :=
  let bare := chomp '\n' line
  let last := bare.foldl (step width inBytes atSpaces) {}
  Text.join ['\n'] ((last.current.reverse :: last.written).reverse) ++ line.drop bare.length

end Folding

/-- The options `-20` and the like in their new form. -/
def modernWidth (args : List Bytes) : List Bytes :=
  args.map fun arg =>
    match arg with
    | '-' :: c :: rest =>
      if c.isDigit && rest.all Char.isDigit then '-' :: 'w' :: c :: rest else arg
    | _ => arg

/-- Breaks the long lines of its operands. -/
def fold : Tool := fun j => withOptions "fold"
  [⟨'b', "bytes", .nothing, true⟩, ⟨'s', "spaces", .nothing, true⟩, ⟨'w', "width", .value, true⟩] 1
  (fun j p =>
    let width := (p.last? 'w').getD (decimal 80)
    match number? width with
    | some (n + 1) =>
      j.filter "fold" p.operands fun b =>
        (linesOf '\n' b).flatMap (Folding.line (n + 1) (p.has 'b') (p.has 's'))
    | some 0 =>
      j.refuse ("fold: invalid number of columns: ".toList ++ quoted width ++
        ": Numerical result out of range".toList) 1
    | none => j.refuse ("fold: invalid number of columns: ".toList ++ quoted width) 1)
  { j with args := modernWidth j.args }

/-- The delimiters that a list stands for; one may be empty. -/
def delimiters : Bytes → List Bytes
  | '\\' :: c :: rest =>
    (match c with
      | '0' => []
      | 'b' => ['\x08']
      | 'f' => ['\x0c']
      | 'n' => ['\n']
      | 'r' => ['\r']
      | 't' => ['\t']
      | 'v' => ['\x0b']
      | c => [c]) :: delimiters rest
  | c :: rest => [c] :: delimiters rest
  | [] => []

/-- Pieces with the delimiters between them in turn. -/
def joinInTurn (all : List Bytes) : List Bytes → List Bytes → Bytes
  | _, [] => []
  | _, [piece] => piece
  | [], piece :: rest =>
    match all with
    | [] => piece ++ joinInTurn all [] rest
    | d :: more => piece ++ d ++ joinInTurn all more rest
  | d :: more, piece :: rest => piece ++ d ++ joinInTurn all more rest

/-- The rows that columns of lines make, up to the end of the longest column. -/
def rows (columns : List (List Bytes)) : (fuel : Nat) → List (List Bytes)
  | 0 => []
  | fuel + 1 =>
    if columns.all (·.isEmpty) then []
    else columns.map (fun lines => lines.headD []) :: rows (columns.map (·.drop 1)) fuel

/-- Deals the lines of a stream to so many columns in turn. -/
def dealt (count : Nat) (lines : List Bytes) (i : Nat) : List Bytes :=
  lines.zipIdx.filterMap fun (line, n) => if n % count = i then some line else none

/-- Puts the lines of its operands side by side, or all lines of each operand on one. -/
def paste : Tool := withOptions "paste"
  [⟨'d', "delimiters", .value, true⟩, ⟨'s', "serial", .nothing, true⟩,
    ⟨'z', "zero-terminated", .nothing, true⟩] 1
  fun j p =>
    let terminator := if p.has 'z' then '\x00' else '\n'
    let list := (p.last? 'd').getD ['\t']
    let between := if list.isEmpty then [[]] else delimiters list
    let operands := if p.operands.isEmpty then [['-']] else p.operands
    if list.getLast? = some '\\' && (list.reverse.takeWhile (· == '\\')).length % 2 = 1 then
      j.refuse ("paste: delimiter list ends with an unescaped backslash: ".toList ++ list) 1
    else if p.has 's' then
      j.each operands (unreadable "paste") fun sources =>
        joinLines terminator (sources.map fun (_, b) =>
          joinInTurn between between (bareLines terminator b))
    else
      match (j.sources operands).findSome? fun s =>
          match s.content with
          | .ok _ => none
          | .error e => some (unreadable "paste" s.name e) with
      | some problem => { j.refuse problem 1 with unread := j.stdin }
      | none =>
        let streams := operands.countP (· = ['-'])
        let columns := operands.zipIdx.map fun (name, i) =>
          if name = ['-'] then
            dealt streams (bareLines terminator j.stdin) ((operands.take i).countP (· = ['-']))
          else bareLines terminator ((j.read name).toOption.getD [])
        let most := (columns.map List.length).foldl max 0
        { stdout :=
            joinLines terminator ((rows columns (most + 1)).map (joinInTurn between between))
          unread := if readsStream operands then [] else j.stdin }

/-- Writes tabs for the blanks of its operands: for those that lines begin with, or for all. -/
def unexpand : Tool := fun job => withOptions "unexpand"
  [⟨'a', "all", .nothing, true⟩, ⟨'f', "first-only", .nothing, false⟩,
    ⟨'t', "tabs", .value, true⟩] 1
  (fun j p =>
    match TabStops.ofLists (p.all 't') with
    | .error problem => j.refuse ("unexpand: ".toList ++ problem) 1
    | .ok stops =>
      let isOld := modernTabs job.args != job.args
      let all := (p.has 'a' || (p.has 't' && ! isOld)) && ! p.has 'f'
      j.filter "unexpand" p.operands fun b =>
        (linesOf '\n' b).flatMap (Unexpanding.line stops all))
  { job with args := modernTabs job.args }

end AmbientDecls.Toolbox
