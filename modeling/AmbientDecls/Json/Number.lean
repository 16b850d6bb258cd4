import AmbientDecls.Json.Reader

/-!
# Numbers

No field of the metadata holds a number, so a number is read only to be reported or to be skipped.
`number` finds its value: an integer if it is written as one and fits in 64 bits, and otherwise a
double. `skipNumber` looks for its end alone and accepts any size.
-/

namespace AmbientDecls.Json

/-- The greatest integer that is kept exactly. -/
def maxWord : Nat := 0xFFFFFFFFFFFFFFFF

def maxExponent : Nat := 0x7FFFFFFF

def digitValue (c : Char) : Nat := c.toNat - '0'.toNat

/-- Takes digits into `n` as long as it stays within `limit`: the number, how many digits were
taken, and the rest. -/
def takeDigits (limit n : Nat) : Text → Nat × Nat × Text
  | [] => (n, 0, [])
  | c :: rest =>
    if c.isDigit && n * 10 + digitValue c ≤ limit then
      let (m, taken, rest') := takeDigits limit (n * 10 + digitValue c) rest
      (m, taken + 1, rest')
    else (n, 0, c :: rest)

/-- The text without the digits at its front. -/
def dropDigits (t : Text) : Text := t.dropWhile Char.isDigit

theorem length_dropDigits (t : Text) : (dropDigits t).length ≤ t.length :=
  (List.dropWhile_sublist Char.isDigit).length_le

def startsWithDigit : Text → Bool
  | [] => false
  | c :: _ => c.isDigit

/-- Whether the sign of an exponent is a minus, and the text behind the sign. -/
def exponentSign : Text → Bool × Text
  | '+' :: rest => (false, rest)
  | '-' :: rest => (true, rest)
  | t => (false, t)

theorem length_exponentSign (t : Text) : (exponentSign t).2.length ≤ t.length := by
  unfold exponentSign
  split <;> simp

/-- Powers of ten up to the greatest that is a double. -/
def powerOfTen (n : Nat) : Float := Float.ofScientific 1 false n

/-- Divides by a power of ten, in steps where that power is no double. -/
def scaleDown (x : Float) (n : Nat) : Float :=
  if n ≤ 308 then x / powerOfTen n
  else if x == 0.0 then x
  else scaleDown (x / powerOfTen 308) (n - 308)
termination_by n

/-- The double for `significand · 10 ^ exponent`, unless it is too great. -/
def float? (significand : Nat) (exponent : Int) : Option Float :=
  let x := significand.toUInt64.toFloat
  if exponent < 0 then some (scaleDown x exponent.natAbs)
  else if exponent ≤ 308 then
    let y := x * powerOfTen exponent.toNat
    if y.isInf then none else some y
  else if x == 0.0 then some x
  else none

/-- A double with its sign, at the end of a number. -/
def finish (negative : Bool) (significand : Nat) (exponent : Int) (rest : Text) :
    Except Fault (Found × Text) :=
  match float? significand exponent with
  | none => .error (.before .numberOutOfRange rest)
  | some x => .ok (.float (if negative then -x else x), rest)

/-- The exponent, if there is one, and the end of a number that is not an integer. An exponent
that is too great to be kept leaves zero unless it makes the number too great. -/
def exponentPart (negative : Bool) (significand : Nat) (exponent : Int) (t : Text) :
    Except Fault (Found × Text) :=
  match t with
  | [] => finish negative significand exponent []
  | c :: rest =>
    if c == 'e' || c == 'E' then
      let (down, rest) := exponentSign rest
      match rest with
      | [] => .error (.before (.cutShort .value) [])
      | d :: rest =>
        if d.isDigit then
          match takeDigits maxExponent (digitValue d) rest with
          | (e, _, rest) =>
            if startsWithDigit rest then
              if significand ≠ 0 && ! down then .error (.before .numberOutOfRange (rest.drop 1))
              else .ok (.float (if negative then -0.0 else 0.0), dropDigits rest)
            else finish negative significand (if down then exponent - e else exponent + e) rest
        else .error (.within .invalidNumber (d :: rest))
    else finish negative significand exponent (c :: rest)

/-- The digits behind the point. Digits that no longer fit into the significand are ignored. -/
def fractionPart (negative : Bool) (significand : Nat) (exponent : Int) (t : Text) :
    Except Fault (Found × Text) :=
  match takeDigits maxWord significand t with
  | (n, taken, rest) =>
    if startsWithDigit rest then exponentPart negative n (exponent - taken) (dropDigits rest)
    else if taken = 0 then
      match rest with
      | [] => .error (.within (.cutShort .value) [])
      | rest => .error (.within .invalidNumber rest)
    else exponentPart negative n (exponent - taken) rest

/-- An integer with its sign: exact if it fits in 64 bits, and a double otherwise. There is no
negative zero among the integers. -/
def integer (negative : Bool) (n : Nat) : Found :=
  if ! negative then .integer n
  else if n = 0 || n > 0x8000000000000000 then .float (-(n.toUInt64.toFloat))
  else .integer (-n)

def afterInteger (negative : Bool) (n : Nat) (t : Text) : Except Fault (Found × Text) :=
  match t with
  | '.' :: rest => fractionPart negative n 0 rest
  | 'e' :: _ => exponentPart negative n 0 t
  | 'E' :: _ => exponentPart negative n 0 t
  | _ => .ok (integer negative n, t)

/-- A number whose sign is taken off. Integer digits that no longer fit are counted and dropped. -/
def unsigned (negative : Bool) (t : Text) : Except Fault (Found × Text) :=
  match t with
  | [] => .error (.before (.cutShort .value) [])
  | c :: rest =>
    if c = '0' then
      if startsWithDigit rest then .error (.within .invalidNumber rest)
      else afterInteger negative 0 rest
    else if c.isDigit then
      match takeDigits maxWord (digitValue c) rest with
      | (n, _, rest) =>
        if startsWithDigit rest then
          let dropped := rest.length - (dropDigits rest).length
          match dropDigits rest with
          | '.' :: rest => fractionPart negative n dropped rest
          | rest => exponentPart negative n dropped rest
        else afterInteger negative n rest
    else .error (.within .invalidNumber (c :: rest))

/-- The value of a number. -/
def number (t : Text) : Except Fault (Found × Text) :=
  match t with
  | '-' :: rest => unsigned true rest
  | _ => unsigned false t

def skipExponent (t : Text) : Except Fault Text :=
  match (exponentSign t).2 with
  | [] => .error (.before .invalidNumber [])
  | d :: rest =>
    if d.isDigit then .ok (dropDigits rest) else .error (.within .invalidNumber (d :: rest))

def skipExponentPart (t : Text) : Except Fault Text :=
  match t with
  | 'e' :: rest => skipExponent rest
  | 'E' :: rest => skipExponent rest
  | _ => .ok t

/-- The text behind what may follow the integer digits. -/
def skipAfterInteger (t : Text) : Except Fault Text :=
  match t with
  | '.' :: rest =>
    if startsWithDigit rest then skipExponentPart (dropDigits rest)
    else .error (.within .invalidNumber rest)
  | _ => skipExponentPart t

/-- The text behind a number whose sign is taken off. -/
def skipUnsigned (t : Text) : Except Fault Text :=
  match t with
  | [] => .error (.before .invalidNumber [])
  | c :: rest =>
    if c = '0' then
      if startsWithDigit rest then .error (.within .invalidNumber rest)
      else skipAfterInteger rest
    else if c.isDigit then skipAfterInteger (dropDigits rest)
    else .error (.within .invalidNumber (c :: rest))

theorem length_of_skipExponent {t rest : Text} (h : skipExponent t = .ok rest) :
    rest.length < t.length := by
  have hs := length_exponentSign t
  unfold skipExponent at h
  split at h
  · simp at h
  · next d r hr =>
    split at h
    · have := length_dropDigits r
      simp_all
      omega
    · simp at h

theorem length_of_skipExponentPart {t rest : Text} (h : skipExponentPart t = .ok rest) :
    rest.length ≤ t.length := by
  unfold skipExponentPart at h
  split at h
  · have := length_of_skipExponent h
    simp only [List.length_cons]
    omega
  · have := length_of_skipExponent h
    simp only [List.length_cons]
    omega
  · simp_all

theorem length_of_skipAfterInteger {t rest : Text} (h : skipAfterInteger t = .ok rest) :
    rest.length ≤ t.length := by
  unfold skipAfterInteger at h
  split at h
  · next r =>
    split at h
    · have := length_of_skipExponentPart h
      have := length_dropDigits r
      simp only [List.length_cons]
      omega
    · simp at h
  · exact length_of_skipExponentPart h

theorem length_of_skipUnsigned {t rest : Text} (h : skipUnsigned t = .ok rest) :
    rest.length < t.length := by
  unfold skipUnsigned at h
  split at h
  · simp at h
  · next c r =>
    split at h
    · split at h
      · simp at h
      · have := length_of_skipAfterInteger h
        simp only [List.length_cons]
        omega
    · split at h
      · have := length_of_skipAfterInteger h
        have := length_dropDigits r
        simp only [List.length_cons]
        omega
      · simp at h

end AmbientDecls.Json
