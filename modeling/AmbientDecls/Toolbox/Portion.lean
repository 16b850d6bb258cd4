import AmbientDecls.Toolbox.Options

/-!
# Parts of streams

`head` and `tail` copy the front or the end of what they read, counted in lines or in bytes.
-/

namespace AmbientDecls.Toolbox

/-- The unit that follows a number, as a factor. -/
def unit? (b : Bytes) : Option Nat :=
  let power := fun (base n : Nat) => Nat.pow base n
  match String.ofList b with
  | "" => some 1
  | "b" => some 512
  | "kB" => some 1000
  | "k" | "K" | "KiB" => some 1024
  | "MB" => some (power 1000 2)
  | "M" | "m" | "MiB" => some (power 1024 2)
  | "GB" => some (power 1000 3)
  | "G" | "GiB" => some (power 1024 3)
  | "TB" => some (power 1000 4)
  | "T" | "TiB" => some (power 1024 4)
  | "PB" => some (power 1000 5)
  | "P" | "PiB" => some (power 1024 5)
  | "EB" => some (power 1000 6)
  | "E" | "EiB" => some (power 1024 6)
  | _ => none

/-- A number with a unit; a unit alone counts once. -/
def size? (b : Bytes) : Option Nat :=
  let figures := b.takeWhile Char.isDigit
  let unit := b.drop figures.length
  match number? figures, unit? unit with
  | some n, some factor => some (n * factor)
  | none, some factor => if unit.isEmpty then none else some factor
  | _, none => none

/-- A part of a stream, at its front or its end, in lines or in bytes. -/
structure Portion where
  count : Nat := 10
  inBytes : Bool := false
  /-- Whether the count tells what to leave out (for the front) or where to begin (for the end). -/
  inverted : Bool := false
  terminator : Char := '\n'
  /-- Whether each part has a heading; if not said, that is so for several sources. -/
  headed : Option Bool := none

namespace Portion

/-- The first lines or bytes of a stream, or all but the last ones. -/
def front (p : Portion) (stream : Bytes) : Bytes :=
  if p.inBytes then
    stream.take (if p.inverted then stream.length - p.count else p.count)
  else
    let lines := linesOf p.terminator stream
    (lines.take (if p.inverted then lines.length - p.count else p.count)).flatten

/-- The last lines or bytes of a stream, or all from a given one on. -/
def back (p : Portion) (stream : Bytes) : Bytes :=
  if p.inBytes then
    stream.drop (if p.inverted then p.count - 1 else stream.length - p.count)
  else
    let lines := linesOf p.terminator stream
    (lines.drop (if p.inverted then p.count - 1 else lines.length - p.count)).flatten

def blockSize : Nat := 8192

/-- What is left unread of a stream whose front is taken. Lines are read in blocks until there are
enough of them. -/
def afterFront (p : Portion) (stream : Bytes) : Bytes :=
  if p.inverted then []
  else if p.inBytes then stream.drop p.count
  else
    let front := p.front stream
    if front.countP (· == p.terminator) < p.count then []
    else stream.drop ((front.length + blockSize - 1) / blockSize * blockSize)

def heading (isFirst : Bool) (name : Bytes) : Bytes :=
  (if isFirst then [] else ['\n']) ++ "==> ".toList ++
    (if name = ['-'] then "standard input".toList else name) ++ " <==\n".toList

def parts (p : Portion) (take : Bytes → Bytes) (operands : List Bytes)
    (sources : List (Bytes × Bytes)) : Bytes :=
  if p.headed.getD (1 < operands.length) then
    sources.zipIdx.flatMap fun ((name, content), i) => heading (i == 0) name ++ take content
  else sources.flatMap fun (_, content) => take content

def options : List Opt :=
  [⟨'c', "bytes", .value, true⟩, ⟨'n', "lines", .value, true⟩, ⟨'q', "quiet", .nothing, true⟩,
    ⟨'q', "silent", .nothing, false⟩, ⟨'v', "verbose", .nothing, true⟩,
    ⟨'z', "zero-terminated", .nothing, true⟩]

/-- Reads one option; a count may have the sign that inverts it, or a plus or minus that does
not. -/
def withOption (p : Portion) (inverting : Char) (option : Char × Bytes) : Except Bytes Portion :=
  let counted := fun (p : Portion) (value : Bytes) (what : String) =>
    let (inverted, figures) := match value with
      | '-' :: rest => (inverting == '-', rest)
      | '+' :: rest => (inverting == '+', rest)
      | _ => (false, value)
    let named := quoted (if value.head? = some '-' then figures else value)
    match size? figures with
    | some count =>
      if count < 18446744073709551616 then .ok { p with count, inverted }
      else .error ("invalid number of ".toList ++ what.toList ++ ": ".toList ++ named ++
        ": Value too large for defined data type".toList)
    | none => .error ("invalid number of ".toList ++ what.toList ++ ": ".toList ++ named)
  match option with
  | ('n', value) => counted { p with inBytes := false } value "lines"
  | ('c', value) => counted { p with inBytes := true } value "bytes"
  | ('q', _) => .ok { p with headed := some false }
  | ('v', _) => .ok { p with headed := some true }
  | ('z', _) => .ok { p with terminator := '\x00' }
  | _ => .ok p

/-- A first argument of `head` in the old form, a count with letters, in the new form. -/
def modernHead : List Bytes → List Bytes
  | ('-' :: rest) :: args =>
    let figures := rest.takeWhile Char.isDigit
    let letters := rest.drop figures.length
    if ! figures.isEmpty && letters.all ("bcklmqvz".toList.elem ·) then
      let unit := letters.foldl
        (fun unit c => if "bkm".toList.elem c then [c] else if c = 'c' then [] else unit) []
      let inBytes := letters.any ("bckm".toList.elem ·)
      ('-' :: (if inBytes then 'c' else 'n') :: (figures ++ unit)) ::
        (letters.filter ("qvz".toList.elem ·)).map (fun c => ['-', c]) ++ args
    else ('-' :: rest) :: args
  | args => args

/-- A first argument of `tail` in the old form, a sign and a count with letters, in the new form.
One more operand may follow it. -/
def modernTail : List Bytes → List Bytes
  | (sign :: rest) :: args =>
    let figures := rest.takeWhile Char.isDigit
    let letters := rest.drop figures.length
    let alone := match args with
      | [] | [['-', '-']] | [['-', '-'], _] => true
      | [operand] => ! (operand.head? = some '-' && 1 < operand.length)
      | _ => false
    let unit := letters.takeWhile ("bcl".toList.elem ·)
    if (sign = '-' || sign = '+') && ! figures.isEmpty && alone && unit.length ≤ 1 &&
        ["".toList, "f".toList].contains (letters.drop unit.length) then
      let inBytes := unit = ['b'] || unit = ['c']
      ('-' :: (if inBytes then 'c' else 'n') :: (if sign = '+' then ['+'] else []) ++ figures ++
        (if unit = ['b'] then ['b'] else [])) :: args
    else (sign :: rest) :: args
  | args => args

/-- Reads the arguments of `head` or `tail`, or says why they cannot be used. A count in the old
form at a wrong place is a fault of its own. -/
def parse (tool : String) (inverting : Char) (known : List Opt) (args : List Bytes)
    (misplaced : Bytes → Ended) (j : Job) : Except Ended (Portion × List Bytes) :=
  match readOptions known true none {} args with
  | .error problem =>
    .error (match problem.reverse with
      | '\'' :: letter :: '\'' :: _ =>
        if letter.isDigit then misplaced [letter]
        else j.misused tool problem 1
      | _ => j.misused tool problem 1)
  | .ok parsed =>
    match parsed.options.foldlM (fun p o => withOption p inverting o) ({} : Portion) with
    | .error problem => .error (j.refuse (tool.toList ++ ": ".toList ++ problem) 1)
    | .ok p => .ok (p, parsed.operands)

def parseHead (j : Job) : Except Ended (Portion × List Bytes) :=
  let args := modernHead j.args
  let old := j.args.head?.getD []
  match old.drop 1 with
  | c :: rest =>
    if old.head? = some '-' && c.isDigit && args = j.args then
      let letters := rest.dropWhile fun c => c.isDigit || "bcklmqvz".toList.elem c
      .error (j.misused "head" ("invalid trailing option -- ".toList ++ letters.take 1) 1)
    else
      parse "head" '-' options args
        (fun letter => j.misused "head" ("invalid trailing option -- ".toList ++ letter) 1) j
  | [] =>
    parse "head" '-' options args
      (fun letter => j.misused "head" ("invalid trailing option -- ".toList ++ letter) 1) j

/-- Reads the arguments of `tail`, which may ask to wait for more; nothing more comes. -/
def parseTail (j : Job) : Except Ended (Portion × List Bytes) :=
  parse "tail" '+'
    (options ++ [⟨'f', "follow", .perhaps, false⟩, ⟨'f', "", .nothing, true⟩,
      ⟨'F', "", .nothing, true⟩, ⟨'s', "sleep-interval", .value, true⟩,
      ⟨'r', "retry", .nothing, false⟩, ⟨'p', "pid", .value, false⟩])
    (modernTail j.args)
    (fun letter => j.refuse ("tail: option used in invalid context -- ".toList ++ letter) 1) j

end Portion

/-- The front of its operands. -/
def head : Tool := fun j =>
  match Portion.parseHead j with
  | .error ended => ended
  | .ok (p, operands) =>
    let ended := j.each operands (unopened "head") (p.parts p.front operands)
    if readsStream operands then { ended with unread := p.afterFront j.stdin } else ended

def tail : Tool := fun j =>
  match Portion.parseTail j with
  | .error ended => ended
  | .ok (p, operands) =>
    let ended := j.each operands (unopened "tail") (p.parts p.back operands)
    if p.count = 0 && ! p.inverted then { ended with unread := j.stdin } else ended

end AmbientDecls.Toolbox
