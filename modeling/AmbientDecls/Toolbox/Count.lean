import AmbientDecls.Toolbox.Options
import AmbientDecls.Toolbox.Regex.Parse

/-!
# Counting tools

`wc` counts lines, words and bytes, and `nl` numbers lines.
-/

namespace AmbientDecls.Toolbox

/-- What there is in a stream. -/
structure Tally where
  lines : Nat := 0
  words : Nat := 0
  bytes : Nat := 0
  /-- The number of columns of the longest line. -/
  longest : Nat := 0
deriving DecidableEq, Repr, Inhabited

namespace Tally

/-- Counting so far, the column it has come to, and whether it is inside a word. -/
structure Progress where
  tally : Tally := {}
  column : Nat := 0
  inWord : Bool := false

/-- Counts one byte. A word is a run of bytes that are no white space and of which one at least is
shown. -/
def Progress.step (p : Progress) (c : Char) : Progress :=
  let t := { p.tally with bytes := p.tally.bytes + 1 }
  let reached := { t with longest := max t.longest p.column }
  if c = '\n' then ⟨{ reached with lines := t.lines + 1 }, 0, false⟩
  else if c = '\r' || c = '\x0c' then ⟨reached, 0, false⟩
  else if c = '\t' then ⟨t, p.column / 8 * 8 + 8, false⟩
  else if c = ' ' then ⟨t, p.column + 1, false⟩
  else if c = '\x0b' then ⟨t, p.column, false⟩
  else if isPrint c then
    ⟨{ t with words := if p.inWord then t.words else t.words + 1 }, p.column + 1, true⟩
  else ⟨t, p.column, p.inWord⟩

def ofBytes (b : Bytes) : Tally :=
  let last := b.foldl Progress.step ({} : Progress)
  { last.tally with longest := max last.tally.longest last.column }

/-- Two tallies together; the longest line is that of either. -/
def add (s t : Tally) : Tally :=
  ⟨s.lines + t.lines, s.words + t.words, s.bytes + t.bytes, max s.longest t.longest⟩

/-- The counts that are asked for, in their order. -/
def chosen (letters : List Char) (t : Tally) : List Nat :=
  [('l', t.lines), ('w', t.words), ('m', t.bytes), ('c', t.bytes), ('L', t.longest)].filterMap
    fun (letter, n) => if letters.elem letter then some n else none

def row (width : Nat) (counts : List Nat) (name : Option Bytes) : Bytes :=
  Text.join [' '] (counts.map fun n => padLeft width (decimal n)) ++
    (name.elim [] fun name => ' ' :: name)

end Tally

/-- Counts what is in its operands. Streams have wide columns, unless there is but one number. -/
def wc : Tool := withOptions "wc"
  [⟨'c', "bytes", .nothing, true⟩, ⟨'m', "chars", .nothing, true⟩, ⟨'l', "lines", .nothing, true⟩,
    ⟨'w', "words", .nothing, true⟩, ⟨'L', "max-line-length", .nothing, true⟩,
    ⟨'T', "total", .value, false⟩] 1
  fun j p =>
    let asked := "lwmcL".toList.filter p.has
    let letters := if asked.isEmpty then ['l', 'w', 'c'] else asked
    let total := (p.last? 'T').getD "auto".toList
    let withRows := total ≠ "only".toList
    let withTotal := if total = "auto".toList then 1 < p.operands.length
      else total ≠ "never".toList
    let files := p.operands.filter (· ≠ ['-'])
    let size := (files.map fun f => ((j.read f).toOption.getD []).length).foldl (· + ·) 0
    let width :=
      if ! withRows then 1
      else if p.operands.length ≤ 1 && letters.length = 1 then 1
      else if p.operands.isEmpty || p.operands.contains ['-'] then 7
      else (decimal size).length
    j.each p.operands (unreadable "wc") fun sources =>
      let tallies := sources.map fun (name, b) => (name, Tally.ofBytes b)
      let rows := tallies.map fun (name, t) =>
        Tally.row width (t.chosen letters) (if p.operands.isEmpty then none else some name)
      let sum := (tallies.map (·.2)).foldl Tally.add {}
      let last := if withTotal then
          [Tally.row width (sum.chosen letters)
            (if withRows then some "total".toList else none)]
        else []
      joinLines '\n' ((if withRows then rows else []) ++ last)

inductive Numbered where
  | all
  | filled
  | none
  | matching (r : Regex)
deriving Repr, Inhabited

structure Numbering where
  header : Numbered := .none
  body : Numbered := .filled
  footer : Numbered := .none
  delimiter : Bytes := ['\\', ':']
  increment : Int := 1
  /-- How many empty lines count as one. -/
  joined : Nat := 1
  start : Int := 1
  renumber : Bool := true
  separator : Bytes := ['\t']
  width : Nat := 6
  alignLeft : Bool := false
  zeros : Bool := false
deriving Repr, Inhabited

namespace Numbering

/-- A number in its column. -/
def figure (o : Numbering) (n : Int) : Bytes :=
  let figures := decimal n.natAbs
  let sign := if n < 0 then ['-'] else []
  let room := o.width - (sign.length + figures.length)
  if o.alignLeft then sign ++ figures ++ List.replicate room ' '
  else if o.zeros then sign ++ List.replicate room '0' ++ figures
  else List.replicate room ' ' ++ sign ++ figures

/-- The style of the section that a line opens. -/
def opened? (o : Numbering) (line : Bytes) : Option Numbered :=
  if o.delimiter.isEmpty then none
  else if line = o.delimiter ++ o.delimiter ++ o.delimiter then some o.header
  else if line = o.delimiter ++ o.delimiter then some o.body
  else if line = o.delimiter then some o.footer
  else none

/-- Numbers lines; `n` is the next number and `blanks` tells how many empty lines came before. -/
def number (o : Numbering) (section? : Numbered) (n : Int) (blanks : Nat) (written : List Bytes) :
    List Bytes → List Bytes
  | [] => written.reverse
  | line :: rest =>
    match o.opened? line with
    | some next => number o next (if o.renumber then o.start else n) 0 ([] :: written) rest
    | none =>
      let (counts, blanks) :=
        match section? with
        | .none => (false, blanks)
        | .filled => (! line.isEmpty, blanks)
        | .matching r => (r.occursIn line, blanks)
        | .all =>
          if o.joined ≤ 1 || ! line.isEmpty || blanks + 1 = o.joined then (true, 0)
          else (false, blanks + 1)
      if counts then
        number o section? (n + o.increment) blanks ((o.figure n ++ o.separator ++ line) :: written)
          rest
      else
        let gap := List.replicate (o.width + o.separator.length) ' '
        number o section? n blanks ((gap ++ line) :: written) rest

def style? : Bytes → Option Numbered
  | ['a'] => some .all
  | ['t'] => some .filled
  | ['n'] => some .none
  | 'p' :: pattern => ((Regex.parse {} pattern).toOption).map fun (r, _) => .matching r
  | _ => none

/-- The integer that digits with perhaps a sign stand for. -/
def integer? : Bytes → Option Int
  | '-' :: figures => (number? figures).map fun n => - (n : Int)
  | '+' :: figures => (number? figures).map fun n => (n : Int)
  | figures => (number? figures).map fun n => (n : Int)

/-- Reads one option, or says what is wrong with its value and whether that is bad usage. -/
def withOption (o : Numbering) : Char × Bytes → Except (Bool × Bytes) Numbering
  | (letter, value) =>
    let styled := fun (what : String) (set : Numbered → Numbering) =>
      match style? value with
      | some s => .ok (set s)
      | none => .error (true,
          "invalid ".toList ++ what.toList ++ " numbering style: ".toList ++ quoted value)
    let counted := fun (what : String) (least : Int) (set : Int → Numbering) =>
      match integer? value with
      | some n =>
        if least ≤ n then .ok (set n)
        else .error (false, "invalid ".toList ++ what.toList ++ ": ".toList ++ quoted value ++
          ": Numerical result out of range".toList)
      | none => .error (false, "invalid ".toList ++ what.toList ++ ": ".toList ++ quoted value)
    let anyInteger : Int := -9223372036854775808
    match letter with
    | 'b' => styled "body" fun s => { o with body := s }
    | 'h' => styled "header" fun s => { o with header := s }
    | 'f' => styled "footer" fun s => { o with footer := s }
    | 'd' => .ok { o with delimiter := match value with
        | [c] => [c, ':']
        | value => value }
    | 'i' => counted "line number increment" anyInteger fun n => { o with increment := n }
    | 'l' => counted "line number of blank lines" 1 fun n => { o with joined := n.toNat }
    | 'v' => counted "starting line number" anyInteger fun n => { o with start := n }
    | 'w' => counted "line number field width" 1 fun n => { o with width := n.toNat }
    | 'p' => .ok { o with renumber := false }
    | 's' => .ok { o with separator := value }
    | 'n' =>
      match String.ofList value with
      | "ln" => .ok { o with alignLeft := true, zeros := false }
      | "rn" => .ok { o with alignLeft := false, zeros := false }
      | "rz" => .ok { o with alignLeft := false, zeros := true }
      | _ => .error (true, "invalid line numbering format: ".toList ++ quoted value)
    | _ => .ok o

end Numbering

def nl : Tool := withOptions "nl"
  [⟨'b', "body-numbering", .value, true⟩, ⟨'d', "section-delimiter", .value, true⟩,
    ⟨'f', "footer-numbering", .value, true⟩, ⟨'h', "header-numbering", .value, true⟩,
    ⟨'i', "line-increment", .value, true⟩, ⟨'l', "join-blank-lines", .value, true⟩,
    ⟨'n', "number-format", .value, true⟩, ⟨'p', "no-renumber", .nothing, true⟩,
    ⟨'s', "number-separator", .value, true⟩, ⟨'v', "starting-line-number", .value, true⟩,
    ⟨'w', "number-width", .value, true⟩] 1
  fun j p =>
    match p.options.foldlM Numbering.withOption {} with
    | .error (true, problem) => j.misused "nl" problem 1
    | .error (false, problem) => j.refuse ("nl: ".toList ++ problem) 1
    | .ok o =>
      j.filter "nl" p.operands fun b =>
        joinLines '\n' (o.number o.body o.start 0 [] (bareLines '\n' b))

end AmbientDecls.Toolbox
