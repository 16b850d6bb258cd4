import AmbientDecls.Toolbox.Order.Value

/-!
# Numbers in columns

How numbers are written by formats: in what base, with how many places, and with what sign and
padding. Floating-point numbers are binary fractions, and their digits are exact before they are
rounded; a number in the middle between two is rounded to the even one.
-/

namespace AmbientDecls.Toolbox

/-- What a format says of how something is written. -/
structure Layout where
  alignLeft : Bool := false
  plus : Bool := false
  space : Bool := false
  alternate : Bool := false
  zeros : Bool := false
  width : Nat := 0
  precision : Option Nat := none
deriving DecidableEq, Repr, Inhabited

namespace Layout

/-- Bytes in their column; zeros go between the sign and the rest. -/
def padded (l : Layout) (zeros : Bool) (sign body : Bytes) : Bytes :=
  let room := l.width - (sign.length + body.length)
  if l.alignLeft then sign ++ body ++ List.replicate room ' '
  else if zeros then sign ++ List.replicate room '0' ++ body
  else List.replicate room ' ' ++ sign ++ body

def sign (l : Layout) (negative : Bool) : Bytes :=
  if negative then ['-'] else if l.plus then ['+'] else if l.space then [' '] else []

/-- A piece of text in its column, no longer than the precision. -/
def text (l : Layout) (b : Bytes) : Bytes :=
  l.padded false [] (l.precision.elim b b.take)

/-- The digits of a whole number, as many as the precision asks for. -/
def figures (l : Layout) (base n : Nat) : Bytes :=
  let plain := if n = 0 && l.precision = some 0 then [] else Nat.toDigits base n
  List.replicate (l.precision.getD 0 - plain.length) '0' ++ plain

def integer (l : Layout) (n : Int) : Bytes :=
  l.padded (l.zeros && l.precision.isNone) (l.sign (n < 0)) (l.figures 10 n.natAbs)

/-- A number without a sign in the base of a letter. -/
def unsigned (l : Layout) (letter : Char) (n : Nat) : Bytes :=
  let zeros := l.zeros && l.precision.isNone
  match letter with
  | 'o' =>
    let figures := l.figures 8 n
    l.padded zeros [] (if l.alternate && figures.head? ≠ some '0' then '0' :: figures else figures)
  | 'x' =>
    l.padded zeros (if l.alternate && n ≠ 0 then ['0', 'x'] else []) (l.figures 16 n)
  | 'X' =>
    l.padded zeros (if l.alternate && n ≠ 0 then ['0', 'X'] else [])
      ((l.figures 16 n).map Char.toUpper)
  | _ => l.padded zeros [] (l.figures 10 n)

end Layout

/-- A quotient rounded to the nearest number, and to the even one of two. -/
def roundedQuotient (n d : Nat) : Nat :=
  let q := n / d
  let r := n % d
  if 2 * r < d || (2 * r = d && q % 2 = 0) then q else q + 1

inductive Floating where
  | notANumber (negative : Bool)
  | infinite (negative : Bool)
  /-- A mantissa times a power of two. -/
  | finite (negative : Bool) (mantissa : Nat) (exponent : Int)
deriving DecidableEq, Repr, Inhabited

namespace Floating

def scale (e : Int) : Nat × Nat := (Nat.pow 2 e.toNat, Nat.pow 2 (-e).toNat)

/-- The fraction with the given number of binary digits that is nearest to a quotient. -/
def nearest (bits : Nat) (negative : Bool) (n d : Nat) : Floating :=
  if n = 0 then .finite negative 0 0
  else
    let guess : Int := (n.log2 : Int) - d.log2 - bits
    let quotient := fun e : Int =>
      let (up, down) := scale e
      roundedQuotient (n * down) (d * up)
    let exponent := if Nat.pow 2 bits ≤ quotient guess then guess + 1 else guess
    let m := quotient exponent
    if Nat.pow 2 bits ≤ m then .finite negative (m / 2) (exponent + 1)
    else .finite negative m exponent

/-- The greatest power of two that numbers with so many digits reach. -/
def mostPower (bits : Nat) : Int := if bits = 64 then 16384 else 1024

/-- The floating-point number that bytes start with, whether it is too big, and what follows. -/
def read (bits : Nat) (b : Bytes) : Floating × Bool × Bytes :=
  let negative := (b.dropWhile isSpace).head? = some '-'
  match General.read b with
  | (.none, rest) => (.finite false 0 0, false, rest)
  | (.notANumber, rest) => (.notANumber negative, false, rest)
  | (.infinite _, rest) => (.infinite negative, false, rest)
  | (.finite mantissa binary decimal, rest) =>
    let (n, d) := General.fraction mantissa binary decimal
    match nearest bits negative n.natAbs d.natAbs with
    | .finite s m e =>
      if m ≠ 0 && mostPower bits < e + bits then (.infinite s, true, rest)
      else (.finite s m e, false, rest)
    | other => (other, false, rest)

/-- Digits with a point before the last ones, if there are any or a point is wanted. -/
def pointed (places : Nat) (alternate : Bool) (n : Nat) : Bytes :=
  let plain := decimal n
  let figures := List.replicate (places + 1 - plain.length) '0' ++ plain
  let whole := figures.take (figures.length - places)
  let rest := figures.drop (figures.length - places)
  if rest.isEmpty then (if alternate then whole ++ ['.'] else whole) else whole ++ '.' :: rest

/-- A fraction with a fixed number of places. -/
def fixed (places : Nat) (alternate : Bool) (n d : Nat) : Bytes :=
  pointed places alternate (roundedQuotient (n * Nat.pow 10 places) d)

/-- The power of ten that a fraction starts with. -/
def magnitude (n d : Nat) : Int :=
  if n = 0 then 0
  else
    let guess : Int := ((decimal n).length : Int) - (decimal d).length
    let reaches := Nat.pow 10 (-guess).toNat * n ≥ Nat.pow 10 guess.toNat * d
    if reaches then guess else guess - 1

/-- The first digits of a fraction, one and then so many places, as a number, and their power. -/
def leading (places : Nat) (n d : Nat) : Nat × Int :=
  let x := magnitude n d
  let shift := (places : Int) - x
  let m := roundedQuotient (n * Nat.pow 10 shift.toNat) (d * Nat.pow 10 (-shift).toNat)
  if Nat.pow 10 (places + 1) ≤ m then (m / 10, x + 1) else (m, x)

/-- An exponent with its sign and at least two digits. -/
def exponentText (letter : Char) (least : Nat) (x : Int) : Bytes :=
  let figures := decimal x.natAbs
  letter :: (if x < 0 then '-' else '+') :: (List.replicate (least - figures.length) '0' ++ figures)

/-- Figures without the zeros behind a point. -/
def trimmed (b : Bytes) : Bytes :=
  if b.contains '.' then
    let kept := b.reverse.dropWhile (· == '0')
    (if kept.head? = some '.' then kept.drop 1 else kept).reverse
  else b

/-- A mantissa in hexadecimal digits with its exponent. -/
def hexText (bits : Nat) (precision : Option Nat) (alternate : Bool) (m : Nat) (e : Int) :
    Bytes :=
  let places := (bits - 1) / 4
  let (head, tail, x) : Nat × Bytes × Int :=
    if m = 0 then (0, List.replicate (precision.getD 0) '0', 0)
    else
      let keep := min (precision.getD places) places
      let rounded := roundedQuotient m (Nat.pow 16 (places - keep))
      let figures := Nat.toDigits 16 (rounded % Nat.pow 16 keep)
      let tail := if keep = 0 then [] else
        List.replicate (keep - figures.length) '0' ++ figures
      let tail := match precision with
        | some p => tail ++ List.replicate (p - keep) '0'
        | none => (tail.reverse.dropWhile (· == '0')).reverse
      (rounded / Nat.pow 16 keep, tail, e + 4 * places)
  Nat.toDigits 16 head ++
    (if tail.isEmpty then (if alternate then ['.'] else []) else '.' :: tail) ++
    exponentText 'p' 1 x

/-- A number in the manner of a letter, without sign and in small letters. -/
def body (bits : Nat) (l : Layout) (letter : Char) (m : Nat) (e : Int) : Bytes :=
  let (up, d) := scale e
  let n := m * up
  let precision := l.precision.getD 6
  let scientific := fun (places : Nat) =>
    let (figures, x) := leading places n d
    (pointed places l.alternate figures, exponentText 'e' 2 x)
  match letter with
  | 'f' => fixed precision l.alternate n d
  | 'e' => (scientific precision).1 ++ (scientific precision).2
  | 'g' =>
    let significant := max precision 1
    let (_, x) := leading (significant - 1) n d
    let trim := if l.alternate then id else trimmed
    if -4 ≤ x && x < significant then
      trim (fixed ((significant : Int) - 1 - x).toNat l.alternate n d)
    else
      let (figures, power) := scientific (significant - 1)
      trim figures ++ power
  | _ => hexText bits l.precision l.alternate m e

end Floating

/-- A floating-point number in the manner of a letter. -/
def Layout.floating (l : Layout) (bits : Nat) (letter : Char) (x : Floating) : Bytes :=
  let cased := fun b : Bytes => if letter.isUpper then b.map Char.toUpper else b
  match x with
  | .notANumber negative => l.padded false (l.sign negative) (cased "nan".toList)
  | .infinite negative => l.padded false (l.sign negative) (cased "inf".toList)
  | .finite negative m e =>
    let base := if letter.toLower = 'a' then cased ['0', 'x'] else []
    l.padded l.zeros (l.sign negative ++ base)
      (cased (Floating.body bits l letter.toLower m e))

end AmbientDecls.Toolbox
