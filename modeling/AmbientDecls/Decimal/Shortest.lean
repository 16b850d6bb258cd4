/-!
# Shortest decimals

The shortest decimal of a binary floating point number is the one with the fewest digits among
those that read back as the number, and of these the nearest to it; of two that are as near, the one
with the even last digit. It is found in exact arithmetic: for one digit, two digits and so on, the
two decimals next to the number on that grid are tested.
-/

namespace AmbientDecls

/-- The decimal `digits · 10 ^ exponent`. -/
structure Decimal where
  digits : Nat
  exponent : Int
deriving DecidableEq, Repr, Inhabited

/-- A finite binary number `significand · 2 ^ exponent` that is not zero. -/
structure Binary where
  significand : Nat
  exponent : Int
  /-- Whether the next smaller number is only half as far away as the next greater one. -/
  narrowBelow : Bool
deriving DecidableEq, Repr, Inhabited

namespace Binary

/-- The number in the low 63 bits of a double, if they hold a finite one that is not zero. -/
def ofBits (bits : Nat) : Option Binary :=
  let fraction : Nat := bits % Nat.pow 2 52
  let biased : Nat := bits / Nat.pow 2 52 % Nat.pow 2 11
  if biased = 0x7FF then none
  else if biased = 0 then
    if fraction = 0 then none else some ⟨fraction, -1074, false⟩
  else some ⟨Nat.pow 2 52 + fraction, (biased : Int) - 1075, fraction = 0 && biased ≠ 1⟩

/-- A number with the least and the greatest real that round to it, as numerators over one
denominator. -/
structure Interval where
  value : Nat
  low : Nat
  high : Nat
  denominator : Nat
  /-- Whether the two ends round to the number too. -/
  closed : Bool

/-- The reals that round to a binary number. -/
def interval (b : Binary) : Interval :=
  let scale := Nat.pow 2 b.exponent.toNat
  { value := 4 * b.significand * scale
    low := (4 * b.significand - if b.narrowBelow then 1 else 2) * scale
    high := (4 * b.significand + 2) * scale
    denominator := 4 * Nat.pow 2 (-b.exponent).toNat
    closed := b.significand % 2 = 0 }

end Binary

namespace Decimal

/-- The decimal as a numerator over the denominator `d`, times `10 ^ (-exponent)` if the exponent
is negative. -/
def numerator (x : Decimal) (d : Nat) : Nat := x.digits * Nat.pow 10 x.exponent.toNat * d

/-- Whether a decimal rounds to the number of an interval. -/
def isIn (x : Decimal) (i : Binary.Interval) : Bool :=
  let n := x.numerator i.denominator
  let scale := Nat.pow 10 (-x.exponent).toNat
  if i.closed then i.low * scale ≤ n && n ≤ i.high * scale
  else i.low * scale < n && n < i.high * scale

/-- The distance of a decimal from the number of an interval, on a scale that depends on the
decimal's exponent alone. -/
def distance (x : Decimal) (i : Binary.Interval) : Nat :=
  let n := x.numerator i.denominator
  let v := i.value * Nat.pow 10 (-x.exponent).toNat
  (n - v) + (v - n)

/-- The decimal without the zeros at the end of its digits. -/
def normalize (x : Decimal) : Nat → Decimal
  | 0 => x
  | fuel + 1 =>
    if x.digits ≠ 0 && x.digits % 10 = 0 then normalize ⟨x.digits / 10, x.exponent + 1⟩ fuel
    else x

/-- The place of the first digit of the number of an interval: the greatest `e` with `10 ^ e` at
most the number. -/
def leadingPlace (i : Binary.Interval) : Int :=
  let e : Int := (Nat.toDigits 10 i.value).length - (Nat.toDigits 10 i.denominator).length
  if i.denominator * Nat.pow 10 e.toNat ≤ i.value * Nat.pow 10 (-e).toNat then e else e - 1

/-- Whether `y` is to be taken rather than `x`, on the same grid. -/
def isBetter (i : Binary.Interval) (x y : Decimal) : Bool :=
  y.distance i < x.distance i || (y.distance i == x.distance i && y.digits % 2 == 0)

/-- The better of the two decimals next to the number on the grid `10 ^ place`, if one of them
rounds to it. -/
def onGrid (i : Binary.Interval) (place : Int) : Option Decimal :=
  let below := i.value * Nat.pow 10 (-place).toNat / (i.denominator * Nat.pow 10 place.toNat)
  let candidates := [(⟨below, place⟩ : Decimal), ⟨below + 1, place⟩].filter (·.isIn i)
  match candidates with
  | [] => none
  | [x] => some x
  | x :: y :: _ => some (if isBetter i x y then y else x)

/-- The first grid that has a decimal for the number, from one digit on. Seventeen digits always
suffice. -/
def shortest (b : Binary) : Decimal :=
  let i := b.interval
  let place := leadingPlace i
  let found := (List.range 17).findSome? fun (n : Nat) => onGrid i (place - n)
  (found.getD ⟨0, 0⟩).normalize 20

end Decimal

end AmbientDecls
