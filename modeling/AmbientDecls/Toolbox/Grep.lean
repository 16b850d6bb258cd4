import AmbientDecls.Toolbox.Options
import AmbientDecls.Toolbox.Regex.Parse

/-!
# Searching lines

`grep` writes the lines in which one of its patterns matches, or counts them, or only tells whether
there are any.
-/

namespace AmbientDecls.Toolbox

/-- What is searched for, and how much of a line has to match. -/
structure Search where
  patterns : List Regex
  /-- The expressions that tell which parts of lines are meant. -/
  partPatterns : List Regex := patterns
  /-- Whether a match must not touch other bytes of words. -/
  words : Bool := false
  wholeLines : Bool := false
  inverted : Bool := false

namespace Search

/-- The furthest spot at which a match from a spot may end. -/
def matchAt? (q : Search) (s : Regex.Spot) : Option Regex.Spot :=
  let free := ! q.words && ! q.wholeLines
  let spots := q.patterns.flatMap fun r => r.ends (r.hasBack || ! free) s
  let accepted := spots.filter fun t =>
    free || (q.wholeLines && s.position = 0 && t.rest.isEmpty) ||
      (! q.wholeLines && q.words && ! s.wordBefore && ! t.wordAfter)
  accepted.foldl
    (fun best t => match best with
      | some b => if b.position < t.position then some t else best
      | none => some t)
    none

/-- The first match from a spot on: how many bytes it starts behind the spot, and where it ends. -/
def first? (q : Search) (passed : Nat) (s : Regex.Spot) : Bytes → Option (Nat × Regex.Spot)
  | [] => (q.matchAt? s).map (passed, ·)
  | c :: rest =>
    match q.matchAt? s with
    | some t => some (passed, t)
    | none => first? q (passed + 1) ⟨s.position + 1, some c, rest, []⟩ rest

/-- The places and bytes of the matches in a line that are not empty. -/
def found (q : Search) : (fuel : Nat) → Regex.Spot → List (Nat × Bytes)
  | 0, _ => []
  | fuel + 1, s =>
    match q.first? 0 s s.rest with
    | none => []
    | some (passed, t) =>
      let length := t.position - (s.position + passed)
      if length = 0 then
        match s.rest.drop passed with
        | [] => []
        | c :: rest => found q fuel ⟨s.position + passed + 1, some c, rest, []⟩
      else
        (s.position + passed, (s.rest.drop passed).take length) ::
          found q fuel { t with groups := [] }

def selects (q : Search) (line : Bytes) : Bool :=
  (q.first? 0 { rest := line } line).isSome != q.inverted

end Search

/-- What is written of the lines that are found. -/
structure Report where
  count : Bool := false
  parts : Bool := false
  numbers : Bool := false
  offsets : Bool := false
  named : Bool := false
  /-- Whether only the names of files are written: of those with such lines, or of the others. -/
  names : Option Bool := none
  quiet : Bool := false
  most : Option Nat := none
  before : Nat := 0
  after : Nat := 0
  /-- Whether lines around others are asked for, so that there are marks between groups. -/
  grouped : Bool := false
  /-- How wide numbers are where lines are aligned. -/
  aligned : Option Nat := none
  terminator : Char := '\n'
  nameEnd : Option Char := none
  text : Bool := false
  /-- Whether sources that are no text are passed over. -/
  textOnly : Bool := false
  colored : Bool := false
  /-- What stands between groups of lines. -/
  divider : Option Bytes := some ['-', '-']

namespace Report

/-- A line, its number and the number of bytes before it, and whether it is one of those found. -/
structure Row where
  line : Bytes
  number : Nat
  offset : Nat
  selected : Bool

/-- The rows of a stream up to the last one that is asked for. -/
def rowsOf (q : Search) (most : Option Nat) (terminator : Char) (stream : Bytes) : List Row :=
  let step := fun (state : List Row × Nat × Nat × Nat) (line : Bytes) =>
    let (rows, number, offset, taken) := state
    let bare := chomp terminator line
    let selected := most.all (taken < ·) && q.selects bare
    (⟨bare, number, offset, selected⟩ :: rows, number + 1, offset + line.length,
      if selected then taken + 1 else taken)
  ((linesOf terminator stream).foldl step ([], 1, 0, 0)).1.reverse

def tinted (o : Report) (color : String) (b : Bytes) : Bytes :=
  if o.colored then
    "\x1b[".toList ++ color.toList ++ "m\x1b[K".toList ++ b ++ "\x1b[m\x1b[K".toList
  else b

/-- The name of a source with what divides it from the rest. -/
def nameFront (o : Report) (name : Bytes) (mark : Char) : Bytes :=
  o.tinted "35" name ++ o.nameEnd.elim (o.tinted "36" [mark]) fun c => [c]

/-- A line or a part of one with what stands before it; `mark` divides that. -/
def marked (o : Report) (name : Bytes) (mark : Char) (number offset : Nat) (shown : Bytes) :
    Bytes :=
  let figure := fun (n : Nat) =>
    o.tinted "32" (padLeft (o.aligned.getD 0) (decimal n)) ++ o.tinted "36" [mark]
  let isMarked := o.named || o.numbers || o.offsets
  (if o.named then o.nameFront name mark else []) ++
    (if o.numbers then figure number else []) ++ (if o.offsets then figure offset else []) ++
    (if o.aligned.isSome && isMarked && ! shown.isEmpty then ['\t'] else []) ++ shown

/-- A line from a place on with some parts of it in color. -/
def withParts (o : Report) (start : Nat) (line : Bytes) : List (Nat × Bytes) → Bytes
  | [] => line
  | (place, part) :: rest =>
    line.take (place - start) ++ o.tinted "01;31" part ++
      withParts o (place + part.length) (line.drop (place - start + part.length)) rest

/-- What stands between groups of lines. -/
def division (o : Report) : Bytes := o.divider.elim [] fun d => o.tinted "36" d ++ ['\n']

def lines (o : Report) (q : Search) (name : Bytes) (row : Row) : List Bytes :=
  let found := fun (_ : Unit) =>
    { q with patterns := q.partPatterns }.found (row.line.length + 2) { rest := row.line }
  if o.parts then
    if q.inverted || ! row.selected then []
    else (found ()).map fun (place, part) =>
      o.marked name ':' row.number (row.offset + place) (o.tinted "01;31" part)
  else
    let shown :=
      if o.colored && row.selected != q.inverted then o.withParts 0 row.line (found ())
      else row.line
    [o.marked name (if row.selected then ':' else '-') row.number row.offset shown]

/-- The rows that are found with those around them, and nothing between groups of them. -/
def around (o : Report) (rows : List Row) : List (Option Row) :=
  let hits := (rows.filter (·.selected)).map (·.number)
  let near := fun (hits : List Nat) (n : Nat) =>
    hits.any fun h => (n ≤ h && h ≤ n + o.before) || (h ≤ n && n ≤ h + o.after)
  let step := fun (state : List (Option Row) × Nat × List Nat) (row : Row) =>
    let (written, last, hits) := state
    let hits := hits.dropWhile fun h => h + o.after < row.number
    if near (hits.take 2) row.number then
      let gap := o.grouped && last ≠ 0 && last + 1 < row.number
      (some row :: (if gap then none :: written else written), row.number, hits)
    else (written, last, hits)
  (rows.foldl step ([], 0, hits)).1.reverse

/-- Whether the lines of a source are not written because it is no text. -/
def hides (o : Report) (stream : Bytes) : Bool :=
  ! o.text && o.terminator = '\n' && stream.contains '\x00'

/-- The complaint that a source with lines that are found is no text. -/
def complaint? (o : Report) (name stream : Bytes) (count : Nat) : Option Bytes :=
  if o.hides stream && 0 < count && ! o.quiet && o.names.isNone && ! o.count then
    some ("grep: ".toList ++ name ++ ": binary file matches".toList)
  else none

/-- What is written for one source, and how many lines are found in it. -/
def ofSource (o : Report) (q : Search) (name stream : Bytes) : Bytes × Nat :=
  let stop := o.quiet || o.names.isSome
  let stream := if o.textOnly && o.hides stream then [] else stream
  let rows := rowsOf q (if stop then some 1 else o.most) o.terminator stream
  let count := rows.countP (·.selected)
  let closing := [o.terminator]
  if o.quiet then ([], count)
  else if let some withLines := o.names then
    (if withLines == decide (0 < count) then o.tinted "35" name ++ [o.nameEnd.getD '\n'] else [],
      count)
  else if o.count then
    ((if o.named then o.nameFront name ':' else []) ++ decimal count ++ ['\n'], count)
  else if o.hides stream then ([], count)
  else
    let shown :=
      if o.most.isSome && o.after = 0 then rows.filter fun r => r.selected || 0 < o.before
      else rows
    (((o.around shown).flatMap fun row =>
      match row with
      | some row => (o.lines q name row).flatMap (· ++ closing)
      | none => o.division), count)

/-- What is written for several sources, with marks between the groups of different ones. -/
def together (o : Report) : List Bytes → Bytes
  | [] => []
  | written :: rest =>
    let more := together o rest
    let isMarked := o.grouped && ! o.count && o.names.isNone
    if isMarked && ! written.isEmpty && ! more.isEmpty then written ++ o.division ++ more
    else written ++ more

end Report

namespace Grep

def options : List Opt :=
  [⟨'E', "extended-regexp", .nothing, true⟩, ⟨'F', "fixed-strings", .nothing, true⟩,
    ⟨'G', "basic-regexp", .nothing, true⟩, ⟨'e', "regexp", .value, true⟩,
    ⟨'f', "file", .value, true⟩, ⟨'i', "ignore-case", .nothing, true⟩, ⟨'y', "", .nothing, true⟩,
    ⟨'I', "", .nothing, true⟩, ⟨'N', "no-ignore-case", .nothing, false⟩,
    ⟨'w', "word-regexp", .nothing, true⟩, ⟨'x', "line-regexp", .nothing, true⟩,
    ⟨'z', "null-data", .nothing, true⟩, ⟨'s', "no-messages", .nothing, true⟩,
    ⟨'v', "invert-match", .nothing, true⟩, ⟨'m', "max-count", .value, true⟩,
    ⟨'b', "byte-offset", .nothing, true⟩, ⟨'n', "line-number", .nothing, true⟩,
    ⟨'H', "with-filename", .nothing, true⟩, ⟨'h', "no-filename", .nothing, true⟩,
    ⟨'l', "files-with-matches", .nothing, true⟩, ⟨'L', "files-without-match", .nothing, true⟩,
    ⟨'c', "count", .nothing, true⟩, ⟨'o', "only-matching", .nothing, true⟩,
    ⟨'q', "quiet", .nothing, true⟩, ⟨'q', "silent", .nothing, false⟩,
    ⟨'a', "text", .nothing, true⟩, ⟨'T', "initial-tab", .nothing, true⟩,
    ⟨'Z', "null", .nothing, true⟩, ⟨'A', "after-context", .value, true⟩,
    ⟨'B', "before-context", .value, true⟩, ⟨'C', "context", .value, true⟩,
    ⟨'k', "label", .value, false⟩, ⟨'K', "line-buffered", .nothing, false⟩,
    ⟨'U', "binary", .nothing, true⟩, ⟨'u', "unix-byte-offsets", .nothing, true⟩,
    ⟨'O', "color", .perhaps, false⟩, ⟨'O', "colour", .perhaps, false⟩,
    ⟨'t', "binary-files", .value, false⟩, ⟨'d', "directories", .value, true⟩,
    ⟨'D', "devices", .value, true⟩, ⟨'g', "group-separator", .value, false⟩,
    ⟨'j', "no-group-separator", .nothing, false⟩, ⟨'r', "recursive", .nothing, true⟩,
    ⟨'R', "dereference-recursive", .nothing, true⟩, ⟨'X', "include", .value, false⟩,
    ⟨'X', "exclude", .value, false⟩, ⟨'X', "exclude-dir", .value, false⟩]

/-- Counts in the old form, such as `-2`, in the new one. -/
def modernContext (args : List Bytes) : List Bytes :=
  args.map fun arg =>
    match arg with
    | '-' :: c :: rest =>
      if c.isDigit && rest.all Char.isDigit then '-' :: 'C' :: c :: rest else arg
    | _ => arg

def isAlways (w : Bytes) : Bool := ["always", "yes", "force"].contains (String.ofList w)

/-- Whether a word asks for no colors here. -/
def isNever (w : Bytes) : Bool :=
  ["", "never", "no", "none", "auto", "tty", "if-tty"].contains (String.ofList w)

/-- A pattern that stands for itself. -/
def literal (fold : Bool) (t : Bytes) : Regex :=
  t.foldr (fun c r => .cat (Regex.setOf { fold } false [(c, c)]) r) .empty

/-- The end of a search that is not asked for right. -/
def usage (j : Job) (problem : Option Bytes) : Ended :=
  let first := problem.elim [] fun p => "grep: ".toList ++ p ++ ['\n']
  j.refuse (first ++ ("Usage: grep [OPTION]... PATTERNS [FILE]...\n" ++
    "Try 'grep --help' for more information.").toList) 2

def patternsOf (argument : Bytes) : List Bytes := Text.split (· == '\n') argument

def patternsIn (content : Bytes) : List Bytes := bareLines '\n' content

/-- The patterns of a search, and how many of the operands are among them. -/
def gather (j : Job) (p : Parsed) : Except Bytes (Option (List Bytes × Nat)) := do
  let given := p.options.filter fun (c, _) => c = 'e' || c = 'f'
  if given.isEmpty then
    return p.operands.head?.map fun t => (patternsOf t, 1)
  let lists ← given.mapM fun (c, value) =>
    if c = 'e' then pure (patternsOf value)
    else if value = ['-'] then pure (patternsIn j.stdin)
    else match j.read value with
      | .ok content => pure (patternsIn content)
      | .error e => throw (value ++ ": ".toList ++ e.description.toList)
  return some (lists.flatten, 0)

/-- How much of a stream is read at once. -/
def blockSize : Nat := 98304

/-- What is left of a stream when the search ends at its first line that is found. -/
def afterFirst (q : Search) (terminator : Char) (stream : Bytes) : Bytes :=
  let rows := (linesOf terminator stream).takeWhile fun line => ! q.selects (chomp terminator line)
  let read := (rows.map List.length).foldl (· + ·) 1
  stream.drop ((read + blockSize - 1) / blockSize * blockSize)

end Grep

/-- Searches the lines of its operands. -/
def grep : Tool := fun j =>
  match readOptions Grep.options true none {} (Grep.modernContext j.args) with
  | .error problem => Grep.usage j (some problem)
  | .ok p =>
    let refuse := fun problem : Bytes => j.refuse ("grep: ".toList ++ problem) 2
    let kinds := (p.options.map (·.1)).filter fun c => c = 'E' || c = 'F' || c = 'G'
    let most := (p.last? 'm').bind number?
    let badContext := ['A', 'B', 'C'].findSome? fun c =>
      (p.all c).find? fun v => (number? v).isNone
    let badCount := (p.all 'm').find? fun v =>
      (number? v).isNone && ! (v.head? = some '-' && (number? (v.drop 1)).isSome)
    let problem : Option Bytes :=
      if let some v := badContext then some (v ++ ": invalid context length argument".toList)
      else if badCount.isSome then some "invalid max count".toList
      else if 1 < kinds.eraseDups.length then some "conflicting matchers specified".toList
      else none
    if (p.all 'O').any fun w => ! Grep.isAlways w && ! Grep.isNever w then Grep.usage j none else
    match problem, Grep.gather j p with
    | some problem, _ => refuse problem
    | _, .error problem => refuse problem
    | _, .ok none => Grep.usage j none
    | none, .ok (some (patterns, taken)) =>
      if most = some 0 && p.lastOf? ['l', 'L'] ≠ some 'L' then
        { status := .code 1, unread := j.stdin }
      else
      let fold := (p.lastOf? ['i', 'y', 'N']).any (· ≠ 'N')
      let kind := (p.lastOf? ['E', 'F', 'G']).getD 'G'
      let style : RegexStyle := { extended := kind = 'E', fold, lenient := true }
      let parsed := fun (style : RegexStyle) => patterns.mapM fun t =>
        if kind = 'F' then .ok (Grep.literal fold t, { rest := [] }) else Regex.read style t
      match parsed style, parsed { style with dropsBraces := true } with
      | .error fault, _ | _, .error fault => refuse fault.message.toList
      | .ok readings, .ok partReadings =>
        let warnings := readings.flatMap fun (_, reading) => reading.warnings.reverse.map fun c =>
          ("grep: warning: " ++ (if c = '\x7b' then "\x7b...\x7d" else String.ofList [c]) ++
            " at start of expression").toList
        let q : Search := {
          patterns := readings.map Prod.fst, partPatterns := partReadings.map Prod.fst
          words := p.has 'w', wholeLines := p.has 'x', inverted := p.has 'v' }
        let context := fun c => ((p.lastOf? [c, 'C']).bind p.last?).bind number?
        let files := p.operands.drop taken
        let o : Report := {
          count := p.has 'c', parts := p.has 'o', numbers := p.has 'n', offsets := p.has 'b'
          named := match p.lastOf? ['H', 'h'] with
            | some c => c = 'H'
            | none => 1 < files.length
          names := (p.lastOf? ['l', 'L']).map (· == 'l')
          quiet := p.has 'q'
          most
          before := if p.has 'o' then 0 else (context 'B').getD 0
          after := if p.has 'o' then 0 else (context 'A').getD 0
          grouped := ! p.has 'o' && (context 'A').isSome || ! p.has 'o' && (context 'B').isSome
          colored := (p.last? 'O').any Grep.isAlways
          aligned := if p.has 'T' then some 0 else none
          terminator := if p.has 'z' then '\x00' else '\n'
          nameEnd := if p.has 'Z' then some '\x00' else none
          text := p.has 'a' || p.last? 't' = some "text".toList
          textOnly := p.has 'I' || p.last? 't' = some "without-match".toList
          divider := if p.has 'j' then none else some ((p.last? 'g').getD ['-', '-']) }
        let sources := j.sources (if files.isEmpty then [['-']] else files)
        let label := (p.last? 'k').getD "(standard input)".toList
        let results := sources.map fun s =>
          match s.content with
          | .ok stream =>
            let name := if s.name = ['-'] then label else s.name
            let size := stream.length + if o.numbers then 1 else 0
            let digits := if s.name = ['-'] then 19 else (decimal size).length
            let o := { o with aligned := o.aligned.map fun _ => digits }
            let (written, count) := o.ofSource q name stream
            .ok (written, count, o.complaint? name stream count)
          | .error e => .error (unreadable "grep" s.name e)
        let good := results.filterMap Except.toOption
        let complaints := results.filterMap fun r =>
          match r with
          | .ok _ => none
          | .error e => some e
        let selected := good.any fun (_, count, _) => 0 < count
        let hidden := good.filterMap fun (_, _, complaint?) => complaint?
        let stops := o.quiet || o.names.isSome
        { status := .code (if ! complaints.isEmpty && ! (o.quiet && selected) then 2
            else if selected then 0 else 1)
          stdout := o.together (good.map Prod.fst)
          stderr := joinLines '\n' (warnings ++ hidden ++ if p.has 's' then [] else complaints)
          unread := if ! readsStream files then j.stdin
            else if stops then Grep.afterFirst q o.terminator j.stdin
            else [] }

end AmbientDecls.Toolbox
