import AmbientDecls.Toolbox.Basic

/-!
# Classes of bytes

The named classes that sets of bytes are made of. Bytes beyond ASCII belong to none.
-/

namespace AmbientDecls.Toolbox

def isSpace (c : Char) : Bool := c == ' ' || ('\t' ≤ c && c ≤ '\r')

def isBlank (c : Char) : Bool := c == ' ' || c == '\t'

def isGraph (c : Char) : Bool := '!' ≤ c && c ≤ '~'

def isPrint (c : Char) : Bool := ' ' ≤ c && c ≤ '~'

def isControl (c : Char) : Bool := c < ' ' || c.toNat == 127

def hexadecimal? (c : Char) : Option Nat :=
  if c.isDigit then some (c.toNat - '0'.toNat)
  else if 'a' ≤ c && c ≤ 'f' then some (c.toNat - 'a'.toNat + 10)
  else if 'A' ≤ c && c ≤ 'F' then some (c.toNat - 'A'.toNat + 10)
  else none

def octal? (c : Char) : Option Nat :=
  if '0' ≤ c && c ≤ '7' then some (c.toNat - '0'.toNat) else none

def decimal? (c : Char) : Option Nat :=
  if c.isDigit then some (c.toNat - '0'.toNat) else none

def isNameChar (c : Char) : Bool := c.isAlphanum || c == '_'

def classOf? (name : Bytes) : Option (Char → Bool) :=
  match String.ofList name with
  | "alnum" => some Char.isAlphanum
  | "alpha" => some Char.isAlpha
  | "blank" => some isBlank
  | "cntrl" => some isControl
  | "digit" => some Char.isDigit
  | "graph" => some isGraph
  | "lower" => some Char.isLower
  | "print" => some isPrint
  | "punct" => some fun c => isGraph c && ! c.isAlphanum
  | "space" => some isSpace
  | "upper" => some Char.isUpper
  | "xdigit" => some fun c => (hexadecimal? c).isSome
  | _ => none

def allBytes : List Char := (List.range 256).map Char.ofNat

/-- Reads up to `count` digits with the given values onto `n`, and returns what follows. -/
def digits (value? : Char → Option Nat) (base n : Nat) : (count : Nat) → Bytes → Nat × Bytes
  | 0, t => (n, t)
  | _ + 1, [] => (n, [])
  | count + 1, c :: rest =>
    match value? c with
    | some d => digits value? base (n * base + d) count rest
    | none => (n, c :: rest)

end AmbientDecls.Toolbox
