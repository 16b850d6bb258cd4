import AmbientDecls.Toolbox.Options
import AmbientDecls.Toolbox.Order.Value

/-!
# Sorting lines

`sort` puts lines in order by keys, which are parts of lines, each compared in its own way. Lines
with the same keys are compared as a whole in the end, if that is wanted.
-/

namespace AmbientDecls.Toolbox

/-- How parts of lines are compared. -/
inductive Manner where
  | bytes
  | number
  | general
  | size
  | month
  | version
deriving DecidableEq, Repr, Inhabited

/-- How the keys at one part of the lines are compared. -/
structure Ordered where
  manners : List Manner := []
  /-- Whether only letters, digits and blanks count. -/
  dictionary : Bool := false
  /-- Whether only bytes that are shown count. -/
  printing : Bool := false
  fold : Bool := false
  reverse : Bool := false
  skipAtStart : Bool := false
  skipAtEnd : Bool := false
deriving DecidableEq, Repr, Inhabited

namespace Ordered

def manner? : Char → Option Manner
  | 'n' => some .number
  | 'g' => some .general
  | 'h' => some .size
  | 'M' => some .month
  | 'V' => some .version
  | _ => none

/-- With what a letter asks for, at the start or the end of a part or both. -/
def withLetter? (o : Ordered) (atStart atEnd : Bool) (letter : Char) : Option Ordered :=
  match letter with
  | 'b' => some { o with
      skipAtStart := o.skipAtStart || atStart, skipAtEnd := o.skipAtEnd || atEnd }
  | 'd' => some { o with dictionary := true, printing := false }
  | 'i' => some (if o.dictionary then o else { o with printing := true })
  | 'f' => some { o with fold := true }
  | 'r' => some { o with reverse := true }
  | c => (manner? c).map fun m =>
      if o.manners.contains m then o else { o with manners := o.manners ++ [m] }

/-- With what letters ask for, up to the first that asks for nothing. -/
def withLetters (o : Ordered) (atStart atEnd : Bool) : Bytes → Ordered × Bytes
  | [] => (o, [])
  | c :: rest =>
    match o.withLetter? atStart atEnd c with
    | some o => withLetters o atStart atEnd rest
    | none => (o, c :: rest)

/-- Whether nothing is said but perhaps that the order is reversed. -/
def isDefault (o : Ordered) : Bool := { o with reverse := false } = {}

/-- The letters that exclude each other. -/
def conflict? (o : Ordered) : Option Bytes :=
  let ignoring := o.dictionary || o.printing || o.manners.contains .version
  let count := (o.manners.filter (· ≠ .version)).length + (if ignoring then 1 else 0)
  if count ≤ 1 then none
  else
    let letter := fun (m : Manner) (c : Char) => if o.manners.contains m then [c] else []
    some ((if o.dictionary then ['d'] else []) ++ (if o.fold then ['f'] else []) ++
      letter .general 'g' ++ letter .size 'h' ++ (if o.printing then ['i'] else []) ++
      letter .month 'M' ++ letter .number 'n' ++ letter .version 'V')

/-- The bytes of a part that count, as they are compared. -/
def counting (o : Ordered) (b : Bytes) : Bytes :=
  let b := if o.dictionary then b.filter fun c => c.isAlphanum || isBlank c || c == '\n'
    else if o.printing then b.filter isPrint
    else b
  if o.fold then b.map Char.toUpper else b

/-- The order of two parts. -/
protected def compare (o : Ordered) (a b : Bytes) : Ordering :=
  let a := o.counting a
  let b := o.counting b
  let result := match o.manners.headD .bytes with
    | .bytes => compareBytes a b
    | .number => compareNumbers a b
    | .general => (General.read a).1.compare (General.read b).1
    | .size => compareSizes a b
    | .month => compare (monthOf a) (monthOf b)
    | .version => compareVersions a b
  if o.reverse then result.swap else result

end Ordered

/-- A part of every line: from a byte of a field on, up to a byte of a field. -/
structure Key where
  /-- The number of fields before the start, and of bytes behind them. -/
  field : Nat := 0
  byte : Nat := 0
  /-- The number of fields before the end, and of bytes behind them; none at all means that the
  whole field belongs to the part. -/
  last : Option (Nat × Nat) := none
  order : Ordered := {}
deriving DecidableEq, Repr, Inhabited

namespace Key

/-- Whether a byte divides fields when no byte is said to. -/
def divides (c : Char) : Bool := isBlank c || c == '\n'

/-- What is left behind so many fields. Behind the last one its delimiter stays if `stop` holds. -/
def skipFields (delimiter : Option Char) (stop : Bool) : (count : Nat) → Bytes → Bytes
  | 0, b => b
  | count + 1, b =>
    match delimiter with
    | none => skipFields delimiter stop count ((b.dropWhile divides).dropWhile (! divides ·))
    | some d =>
      let rest := b.dropWhile (· != d)
      skipFields delimiter stop count (if stop && count = 0 then rest else rest.drop 1)

def part (k : Key) (delimiter : Option Char) (line : Bytes) : Bytes :=
  let blanks := fun b : Bytes => b.dropWhile divides
  let start := skipFields delimiter false k.field line
  let start := (if k.order.skipAtStart then blanks start else start).drop k.byte
  match k.last with
  | none => start
  | some (field, byte) =>
    let stop :=
      if byte = 0 then skipFields delimiter true (field + 1) line
      else
        let rest := skipFields delimiter false field line
        (if k.order.skipAtEnd then blanks rest else rest).drop byte
    start.take (start.length - stop.length)

def count (what : String) (b : Bytes) : Except Bytes (Nat × Bytes) :=
  let figures := b.takeWhile Char.isDigit
  match number? figures with
  | some n => .ok (n, b.drop figures.length)
  | none => .error (what.toList ++ ": invalid count at start of ".toList ++ quoted b)

def ofBytes (b : Bytes) : Except Bytes Key := do
  let bad := fun what : String => what.toList ++ ": invalid field specification ".toList ++ quoted b
  let (field, t) ← count "invalid number at field start" b
  if field = 0 then throw (bad "field number is zero")
  let (byte, t) ← match t with
    | '.' :: rest => count "invalid number after '.'" rest
    | t => pure (1, t)
  if byte = 0 then throw (bad "character offset is zero")
  let (order, t) := ({} : Ordered).withLetters true false t
  let key : Key := { field := field - 1, byte := byte - 1, order }
  let (key, t) ← match t with
    | ',' :: rest => do
      let (field, t) ← count "invalid number after ','" rest
      if field = 0 then throw (bad "field number is zero")
      let (byte, t) ← match t with
        | '.' :: rest => count "invalid number after '.'" rest
        | t => pure (0, t)
      let (order, t) := order.withLetters false true t
      pure ({ key with last := some (field - 1, byte), order }, t)
    | t => pure (key, t)
  if ! t.isEmpty then throw (bad "stray character in field spec")
  return key

end Key

structure Sorting where
  keys : List Key := []
  reverse : Bool := false
  /-- Whether lines with the same keys stay as they are. -/
  stable : Bool := false
  unique : Bool := false
  delimiter : Option Char := none

namespace Sorting

protected def compare (s : Sorting) (a b : Bytes) : Ordering :=
  let byKeys := s.keys.foldl
    (fun o k => o.then (k.order.compare (k.part s.delimiter a) (k.part s.delimiter b))) .eq
  if byKeys ≠ .eq || (! s.keys.isEmpty && (s.unique || s.stable)) then byKeys
  else if s.reverse then (compareBytes a b).swap
  else compareBytes a b

/-- Lines without those that are the same as the one before, as far as the order goes. -/
def distinct (s : Sorting) : List Bytes → List Bytes
  | a :: rest =>
    let step := fun (kept : List Bytes × Bytes) (line : Bytes) =>
      if s.compare kept.2 line = .eq then kept else (line :: kept.1, line)
    (rest.foldl step ([a], a)).1.reverse
  | [] => []

def sorted (s : Sorting) (lines : List Bytes) : List Bytes :=
  let ordered := lines.mergeSort fun a b => s.compare a b != .gt
  if s.unique then s.distinct ordered else ordered

/-- Two columns of lines as one: the line that comes first is taken each time. -/
def merge (s : Sorting) (as bs : List Bytes) : List Bytes :=
  List.merge as bs fun a b => s.compare a b != .gt

/-- The first line that is not in order behind the one before it, with its number. -/
def disorder? (s : Sorting) (n : Nat) : List Bytes → Option (Nat × Bytes)
  | a :: b :: rest =>
    let o := s.compare a b
    if o = .gt || (s.unique && o = .eq) then some (n + 1, b) else disorder? s (n + 1) (b :: rest)
  | _ => none

/-- The options of `sort`. Sizes, places and the like change nothing. -/
def options : List Opt :=
  [⟨'b', "ignore-leading-blanks", .nothing, true⟩, ⟨'d', "dictionary-order", .nothing, true⟩,
    ⟨'f', "ignore-case", .nothing, true⟩, ⟨'g', "general-numeric-sort", .nothing, true⟩,
    ⟨'h', "human-numeric-sort", .nothing, true⟩, ⟨'i', "ignore-nonprinting", .nothing, true⟩,
    ⟨'M', "month-sort", .nothing, true⟩, ⟨'n', "numeric-sort", .nothing, true⟩,
    ⟨'r', "reverse", .nothing, true⟩, ⟨'V', "version-sort", .nothing, true⟩,
    ⟨'c', "", .nothing, true⟩, ⟨'C', "", .nothing, true⟩, ⟨'x', "check", .perhaps, false⟩,
    ⟨'w', "sort", .value, false⟩, ⟨'k', "key", .value, true⟩, ⟨'m', "merge", .nothing, true⟩,
    ⟨'o', "output", .value, true⟩, ⟨'s', "stable", .nothing, true⟩,
    ⟨'S', "buffer-size", .value, true⟩, ⟨'t', "field-separator", .value, true⟩,
    ⟨'T', "temporary-directory", .value, true⟩, ⟨'u', "unique", .nothing, true⟩,
    ⟨'z', "zero-terminated", .nothing, true⟩, ⟨'P', "parallel", .value, false⟩,
    ⟨'B', "batch-size", .value, false⟩, ⟨'y', "compress-program", .value, false⟩,
    ⟨'R', "random-source", .value, false⟩]

def letterOf? (word : Bytes) : Option Char :=
  [("general-numeric", 'g'), ("human-numeric", 'h'), ("month", 'M'), ("numeric", 'n'),
    ("version", 'V')].findSome? fun (name, c) =>
      if ! word.isEmpty && word.isPrefixOf name.toList then some c else none

/-- The byte between fields that a value asks for. -/
def delimiterOf (value : Bytes) : Except Bytes Char :=
  match value with
  | [] => .error "empty tab".toList
  | [c] => .ok c
  | ['\\', '0'] => .ok '\x00'
  | _ => .error ("multi-character tab ".toList ++ quoted value)

/-- Reads how lines are sorted from options. Keys that say nothing of the order take it from the
options around them. -/
def ofOptions (p : Parsed) : Except Bytes Sorting := do
  let global := p.options.foldl
    (fun (o : Ordered) (letter, value) =>
      let letter := if letter = 'w' then (letterOf? value).getD letter else letter
      (o.withLetter? true true letter).getD o)
    {}
  let keys ← (p.all 'k').mapM Key.ofBytes
  let keys := keys.map fun k =>
    if k.order.isDefault && ! k.order.reverse then { k with order := global } else k
  let keys := if keys.isEmpty && ! global.isDefault then [{ order := global }] else keys
  match keys.findSome? (·.order.conflict?) with
  | some letters =>
    throw ("options ".toList ++ quoted ('-' :: letters) ++ " are incompatible".toList)
  | none => pure ()
  let delimiters ← (p.all 't').mapM delimiterOf
  match delimiters with
  | first :: rest =>
    if rest.any (· ≠ first) then throw "incompatible tabs".toList
  | [] => pure ()
  return {
    keys, reverse := global.reverse, stable := p.has 's', unique := p.has 'u'
    delimiter := delimiters.head? }

end Sorting

/-- Sorts the lines of its operands, merges them if they are sorted already, or checks whether they
are. -/
def sort : Tool := fun j =>
  match readOptions Sorting.options true none {} j.args with
  | .error problem => j.misused "sort" problem 2
  | .ok p =>
    let refuse := fun problem : Bytes => j.refuse ("sort: ".toList ++ problem) 2
    match Sorting.ofOptions p with
    | .error problem => refuse problem
    | .ok s =>
      let terminator := if p.has 'z' then '\x00' else '\n'
      let quiet := p.has 'C' || (p.all 'x').any fun v => ! v.isEmpty && v ≠ "diagnose-first".toList
      let checking := p.has 'c' || p.has 'C' || p.has 'x'
      let operands := if p.operands.isEmpty then [['-']] else p.operands
      let sources := j.sources operands
      let failure := sources.findSome? fun source =>
        match source.content with
        | .ok _ => none
        | .error e => some (("cannot read: ".toList ++ source.name ++ ": ".toList ++
            e.description.toList : Bytes))
      match checking, p.operands, failure with
      | true, _ :: extra :: _, _ =>
        refuse ("extra operand ".toList ++ quoted extra ++ " not allowed with -c".toList)
      | _, _, some problem => refuse problem
      | true, _, none =>
        let name := operands.headD []
        let lines := sources.flatMap fun source =>
          bareLines terminator (source.content.toOption.getD [])
        match s.disorder? 1 lines with
        | none => {}
        | some (n, line) =>
          { status := .code 1
            stderr := if quiet then [] else
              "sort: ".toList ++ name ++ ':' :: decimal n ++ ": disorder: ".toList ++ line ++
                ['\n'] }
      | false, _, none =>
        let columns := sources.map fun source =>
          bareLines terminator (source.content.toOption.getD [])
        let lines :=
          if p.has 'm' then
            let merged := columns.foldl s.merge []
            if s.unique then s.distinct merged else merged
          else s.sorted columns.flatten
        let result := joinLines terminator lines
        match p.last? 'o' with
        | some path =>
          { written := [(path, result)]
            unread := if readsStream operands then [] else j.stdin }
        | none =>
          { stdout := result, unread := if readsStream operands then [] else j.stdin }

end AmbientDecls.Toolbox
