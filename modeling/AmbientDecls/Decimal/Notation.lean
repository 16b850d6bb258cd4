import AmbientDecls.Decimal.Shortest

/-!
# Decimal notation

A floating point number is written by its shortest decimal: positionally if its first digit stands
near the point, and with an exponent otherwise.
-/

namespace AmbientDecls

/-- How floating point numbers are written: where positional notation begins and ends. -/
structure FloatFormat where
  /-- The place of the first digit is at least this in positional notation. -/
  least : Int
  /-- The place of the first digit is at most this in positional notation. -/
  greatest : Int
deriving Repr, Inhabited

namespace FloatFormat

/-- The digits with a point after the digit at place zero, at least one digit on each side. -/
def positional (digits : List Char) (exponent : Int) : List Char :=
  let place := digits.length + exponent
  if 0 ≤ exponent then digits ++ List.replicate exponent.toNat '0' ++ ['.', '0']
  else if 0 < place then digits.take place.toNat ++ '.' :: digits.drop place.toNat
  else '0' :: '.' :: List.replicate (-place).toNat '0' ++ digits

/-- The digits with a point after the first, and the exponent with its sign. -/
def scientific (digits : List Char) (exponent : Int) : List Char :=
  let place := digits.length + exponent - 1
  let sign := if place < 0 then '-' else '+'
  let significand := match digits with
    | first :: second :: rest => first :: '.' :: second :: rest
    | _ => digits
  significand ++ 'e' :: sign :: Nat.toDigits 10 place.natAbs

def decimal (format : FloatFormat) (x : Decimal) : List Char :=
  let digits := Nat.toDigits 10 x.digits
  let place := digits.length + x.exponent - 1
  if format.least ≤ place && place ≤ format.greatest then positional digits x.exponent
  else scientific digits x.exponent

/-- The text of a finite double, by its shortest decimal. -/
def float (format : FloatFormat) (x : Float) : List Char :=
  let bits := x.toBits.toNat
  let sign := if bits >>> 63 = 1 then ['-'] else []
  match Binary.ofBits bits with
  | none => sign ++ ['0', '.', '0']
  | some b => sign ++ format.decimal (Decimal.shortest b)

end FloatFormat

end AmbientDecls
