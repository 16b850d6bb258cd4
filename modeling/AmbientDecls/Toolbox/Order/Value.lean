import AmbientDecls.Toolbox.Class

/-!
# Orders of bytes

The orders that lines are sorted by: byte by byte, by the number or the month that they start with,
and by version. Bytes that start with no number count as zero.
-/

namespace AmbientDecls.Toolbox

def compareBytes : Bytes → Bytes → Ordering
  | [], [] => .eq
  | [], _ => .lt
  | _, [] => .gt
  | a :: as, b :: bs => (compare a b).then (compareBytes as bs)

/-- The blanks at the front left out; line ends count as blanks. -/
def skipBlanks (b : Bytes) : Bytes := b.dropWhile fun c => isBlank c || c == '\n'

/-- A decimal number: its sign, its whole digits without leading zeros, and its other digits
without trailing ones. -/
structure Figure where
  negative : Bool := false
  whole : Bytes := []
  fraction : Bytes := []
deriving DecidableEq, Repr, Inhabited

namespace Figure

/-- The number that bytes start with, and what follows it. -/
def ofBytes (b : Bytes) : Figure × Bytes :=
  let (negative, b) := match skipBlanks b with
    | '-' :: rest => (true, rest)
    | rest => (false, rest)
  let whole := b.takeWhile Char.isDigit
  let b := b.drop whole.length
  let (fraction, b) := match b with
    | '.' :: rest =>
      let digits := rest.takeWhile Char.isDigit
      (digits, rest.drop digits.length)
    | rest => ([], rest)
  let whole := whole.dropWhile (· == '0')
  let fraction := (fraction.reverse.dropWhile (· == '0')).reverse
  (⟨negative && ! (whole.isEmpty && fraction.isEmpty), whole, fraction⟩, b)

def isZero (f : Figure) : Bool := f.whole.isEmpty && f.fraction.isEmpty

/-- The order of numbers without their signs. -/
def compareSize (f g : Figure) : Ordering :=
  ((compare f.whole.length g.whole.length).then (compareBytes f.whole g.whole)).then
    (compareBytes f.fraction g.fraction)

/-- The order of numbers. -/
protected def compare (f g : Figure) : Ordering :=
  match f.negative, g.negative with
  | true, true => compareSize g f
  | true, false => .lt
  | false, true => .gt
  | false, false => compareSize f g

end Figure

/-- The order of the numbers that bytes start with. -/
def compareNumbers (a b : Bytes) : Ordering :=
  (Figure.ofBytes a).1.compare (Figure.ofBytes b).1

/-- The rank of the unit behind a number, with the number's sign. -/
def unitRank (b : Bytes) : Int :=
  let (f, rest) := Figure.ofBytes b
  let rank : Nat := match rest with
    | 'k' :: _ => 1
    | c :: _ => (("KMGTPEZYRQ".toList.idxOf? c).map (· + 1)).getD 0
    | [] => 0
  if f.isZero then 0 else if f.negative then - (rank : Int) else rank

/-- The order of numbers with units: first by the unit. -/
def compareSizes (a b : Bytes) : Ordering :=
  (compare (unitRank a) (unitRank b)).then (compareNumbers a b)

def months : List String :=
  ["JAN", "FEB", "MAR", "APR", "MAY", "JUN", "JUL", "AUG", "SEP", "OCT", "NOV", "DEC"]

/-- The number of the month that bytes start with, or zero. -/
def monthOf (b : Bytes) : Nat :=
  let name := String.ofList (((skipBlanks b).take 3).map Char.toUpper)
  ((months.idxOf? name).map (· + 1)).getD 0

/-- A number in the widest sense that bytes start with. -/
inductive General where
  | none
  | notANumber
  | infinite (negative : Bool)
  /-- A mantissa with its binary and its decimal exponent. -/
  | finite (mantissa : Int) (binary decimal : Int)
deriving DecidableEq, Repr, Inhabited

namespace General

/-- The digits in a base with perhaps a point among them, as a number, the count of digits behind
the point, whether there is any digit, and what follows. -/
def mantissa (value? : Char → Option Nat) (base : Nat) (b : Bytes) : Nat × Nat × Bool × Bytes :=
  let (whole, rest) := digits value? base 0 b.length b
  let seen := rest.length < b.length
  match rest with
  | '.' :: more =>
    let (n, after) := digits value? base whole more.length more
    if seen || after.length < more.length then (n, more.length - after.length, true, after)
    else (whole, 0, seen, rest)
  | rest => (whole, 0, seen, rest)

/-- An exponent behind its letter, and what follows. -/
def exponent (upper : Char) (b : Bytes) : Int × Bytes :=
  match b with
  | c :: rest =>
    if c.toUpper = upper then
      let (sign, figures) : Int × Bytes := match rest with
        | '-' :: more => (-1, more)
        | '+' :: more => (1, more)
        | more => (1, more)
      let (n, after) := digits decimal? 10 0 figures.length figures
      if after.length < figures.length then (sign * n, after) else (0, b)
    else (0, b)
  | [] => (0, b)

def startsWith (word : String) (b : Bytes) : Bool :=
  (b.take word.length).map Char.toLower = word.toList

/-- The number that bytes start with, and what follows it. -/
def read (b : Bytes) : General × Bytes :=
  let t := b.dropWhile isSpace
  let (negative, t) := match t with
    | '-' :: rest => (true, rest)
    | '+' :: rest => (false, rest)
    | rest => (false, rest)
  let signed := fun n : Nat => if negative then - (n : Int) else (n : Int)
  if startsWith "infinity" t then (.infinite negative, t.drop 8)
  else if startsWith "inf" t then (.infinite negative, t.drop 3)
  else if startsWith "nan" t then (.notANumber, t.drop 3)
  else if startsWith "0x" t && (mantissa hexadecimal? 16 (t.drop 2)).2.2.1 then
    let (n, places, _, rest) := mantissa hexadecimal? 16 (t.drop 2)
    let (e, rest) := exponent 'P' rest
    (.finite (signed n) (e - 4 * places) 0, rest)
  else
    let (n, places, isNumber, rest) := mantissa decimal? 10 t
    if isNumber then
      let (e, rest) := exponent 'E' rest
      (.finite (signed n) 0 (e - places), rest)
    else (.none, b)

def mostExponent : Nat := 6000

def fraction (mantissa binary decimal : Int) : Int × Int :=
  let up := fun (base : Nat) (e : Int) => (Nat.pow base (min e.toNat mostExponent) : Int)
  (mantissa * up 2 binary * up 10 decimal, up 2 (- binary) * up 10 (- decimal))

/-- The rank of the kinds of numbers; negative infinity comes behind what is no number. -/
def kind : General → Nat
  | none => 0
  | notANumber => 1
  | infinite true => 2
  | finite .. => 3
  | infinite false => 4

/-- The order of numbers in the widest sense. -/
protected def compare (g h : General) : Ordering :=
  match g, h with
  | finite m b d, finite m' b' d' =>
    let (p, q) := fraction m b d
    let (p', q') := fraction m' b' d'
    compare (p * q') (p' * q)
  | g, h => compare g.kind h.kind

end General

/-- The rank of a byte in the order of versions: a tilde comes before the end, then letters, then
other bytes. -/
def versionRank (c : Char) : Int :=
  if c.isDigit then 0
  else if c.isAlpha then c.toNat
  else if c = '~' then -2
  else (c.toNat : Int) + 256

/-- The order of the parts before the next digits: what counts is the first difference. -/
def compareLetters : (fuel : Nat) → Bytes → Bytes → Ordering × Bytes × Bytes
  | 0, a, b => (.eq, a, b)
  | fuel + 1, a, b =>
    let rank := fun t : Bytes => match t with
      | [] => -1
      | c :: _ => versionRank c
    let more := fun t : Bytes => match t with
      | [] => false
      | c :: _ => ! c.isDigit
    if more a || more b then
      match compare (rank a) (rank b) with
      | .eq => compareLetters fuel (a.drop 1) (b.drop 1)
      | o => (o, a, b)
    else (.eq, a, b)

/-- The order of versions: letters and numbers in turn. -/
def compareParts : (fuel : Nat) → Bytes → Bytes → Ordering
  | 0, _, _ => .eq
  | fuel + 1, a, b =>
    if a.isEmpty && b.isEmpty then .eq
    else
      match compareLetters (a.length + b.length + 1) a b with
      | (.eq, a, b) =>
        let number := fun t : Bytes => (t.takeWhile Char.isDigit).dropWhile (· == '0')
        let rest := fun t : Bytes => t.dropWhile Char.isDigit
        match (compare (number a).length (number b).length).then
            (compareBytes (number a) (number b)) with
        | .eq => compareParts fuel (rest a) (rest b)
        | o => o
      | (o, _) => o

/-- How long the front of a name is without its endings, each a dot, a letter or a tilde, and
letters, digits and tildes. -/
def stemLength (b : Bytes) : Nat :=
  let opens := fun c : Char => c.isAlpha || c == '~'
  let goesOn := fun c : Char => c.isAlphanum || c == '~'
  let rec stem : (fuel : Nat) → Bytes → Nat
    | 0, t => t.length
    | fuel + 1, t =>
      let ending := t.takeWhile goesOn
      match ending.getLast?, t.drop ending.length with
      | some c, '.' :: front => if opens c then stem fuel front else t.length
      | _, _ => t.length
  stem b.length b.reverse

/-- The order of versions of names. Names that begin with a dot come first; endings count only if
the fronts are the same. -/
def compareVersions (a b : Bytes) : Ordering :=
  let rank := fun t : Bytes =>
    if t.isEmpty then 0
    else if t = ['.'] then 1
    else if t = ['.', '.'] then 2
    else if t.head? = some '.' then 3
    else 4
  let fuel := a.length + b.length + 2
  match compare (rank a) (rank b) with
  | .eq =>
    let front := fun t : Bytes => t.take (stemLength t)
    match compareParts fuel (front a) (front b) with
    | .eq =>
      if front a = a && front b = b then .eq else compareParts fuel a b
    | o => o
  | o => o

end AmbientDecls.Toolbox
