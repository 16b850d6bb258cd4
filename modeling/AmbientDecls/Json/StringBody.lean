import AmbientDecls.Json.Reader

/-!
# Strings

The body of a JSON string, from its opening quote to its closing one. `stringBody` decodes it and
refuses escapes that stand for no character; `skipString` only looks for its end.
-/

namespace AmbientDecls.Json

def hexValue (c : Char) : Option Nat :=
  if '0' ≤ c ∧ c ≤ '9' then some (c.toNat - '0'.toNat)
  else if 'a' ≤ c ∧ c ≤ 'f' then some (c.toNat - 'a'.toNat + 10)
  else if 'A' ≤ c ∧ c ≤ 'F' then some (c.toNat - 'A'.toNat + 10)
  else none

/-- The value of four hexadecimal digits. -/
def hexQuad (a b c d : Char) : Option Nat := do
  return ((← hexValue a) * 16 + (← hexValue b)) * 256 + ((← hexValue c) * 16 + (← hexValue d))

/-- The code unit in the next four digits. Where less than four bytes are left the string is cut
short; otherwise four bytes are taken before they are looked at. -/
def codeUnit (t : Text) : Except Fault (Nat × Text) :=
  match t with
  | a :: b :: c :: d :: rest =>
    match hexQuad a b c d with
    | some n => .ok (n, rest)
    | none => .error ⟨.invalidEscape, t.byteSize - 4⟩
  | _ =>
    if t.byteSize < 4 then .error ⟨.cutShort .string, 0⟩
    else .error ⟨.invalidEscape, t.byteSize - 4⟩

theorem length_of_codeUnit {t rest : Text} {n : Nat} (h : codeUnit t = .ok (n, rest)) :
    rest.length < t.length := by
  unfold codeUnit at h
  split at h
  · split at h
    · simp_all
      omega
    · simp at h
  · split at h <;> simp at h

/-- Takes one given character of an escape that must go on. -/
def escapeGoesOn (expected : Char) : Text → Except Fault Text
  | [] => .error (.before (.cutShort .string) [])
  | c :: rest =>
    if c = expected then .ok rest else .error (.within .unexpectedEndOfEscape (c :: rest))

theorem length_of_escapeGoesOn {c : Char} {t rest : Text} (h : escapeGoesOn c t = .ok rest) :
    rest.length < t.length := by
  cases t with
  | nil => simp [escapeGoesOn] at h
  | cons d t =>
    simp only [escapeGoesOn] at h
    split at h
    · simp_all
    · simp at h

/-- Whether a code unit is the first of a pair. -/
def isHighSurrogate (n : Nat) : Bool := 0xD800 ≤ n && n ≤ 0xDBFF

/-- Whether a code unit is the second of a pair. -/
def isLowSurrogate (n : Nat) : Bool := 0xDC00 ≤ n && n ≤ 0xDFFF

/-- The character of one code unit or of a pair of them. -/
def unicodeEscape (t : Text) : Except Fault (Char × Text) := do
  let (n, rest) ← codeUnit t
  if isLowSurrogate n then .error (.before .loneSurrogate rest)
  else if isHighSurrogate n then
    let rest ← escapeGoesOn '\\' rest
    let rest ← escapeGoesOn 'u' rest
    let (m, rest) ← codeUnit rest
    if isLowSurrogate m then
      .ok (Char.ofNat (0x10000 + (n - 0xD800) * 0x400 + (m - 0xDC00)), rest)
    else .error (.before .loneSurrogate rest)
  else .ok (Char.ofNat n, rest)

theorem length_of_unicodeEscape {t rest : Text} {c : Char}
    (h : unicodeEscape t = .ok (c, rest)) : rest.length < t.length := by
  unfold unicodeEscape at h
  cases h1 : codeUnit t with
  | error e => simp [h1, bind, Except.bind] at h
  | ok p =>
    have l1 := length_of_codeUnit h1
    simp only [h1, bind, Except.bind] at h
    split at h
    · simp at h
    · split at h
      · cases h2 : escapeGoesOn '\\' p.2 with
        | error e => simp [h2] at h
        | ok r2 =>
          have l2 := length_of_escapeGoesOn h2
          cases h3 : escapeGoesOn 'u' r2 with
          | error e => simp [h2, h3] at h
          | ok r3 =>
            have l3 := length_of_escapeGoesOn h3
            cases h4 : codeUnit r3 with
            | error e => simp [h2, h3, h4] at h
            | ok q =>
              have l4 := length_of_codeUnit h4
              simp only [h2, h3, h4] at h
              split at h
              · simp_all
                omega
              · simp at h
      · simp_all

/-- The character of an escape, whose backslash is taken off already. -/
def escape : Text → Except Fault (Char × Text)
  | [] => .error (.before (.cutShort .string) [])
  | c :: rest =>
    match c with
    | '"' => .ok ('"', rest)
    | '\\' => .ok ('\\', rest)
    | '/' => .ok ('/', rest)
    | 'b' => .ok ('\x08', rest)
    | 'f' => .ok ('\x0c', rest)
    | 'n' => .ok ('\n', rest)
    | 'r' => .ok ('\r', rest)
    | 't' => .ok ('\t', rest)
    | 'u' => unicodeEscape rest
    | _ => .error (.within .invalidEscape (c :: rest))

theorem length_of_escape {t rest : Text} {c : Char} (h : escape t = .ok (c, rest)) :
    rest.length < t.length := by
  cases t with
  | nil => simp [escape] at h
  | cons d t =>
    simp only [escape] at h
    split at h
    case h_9 =>
      have := length_of_unicodeEscape h
      simp only [List.length_cons]
      omega
    all_goals simp_all

/-- Whether the character may stand in a string only as an escape. -/
def isControl (c : Char) : Bool := c.toNat < 0x20

/-- The characters up to the closing quote after those in `decoded`, which are in reverse order,
and the text behind that quote. -/
def stringBody (decoded : Text) (t : Text) : Except Fault (Text × Text) :=
  match t with
  | [] => .error (.before (.cutShort .string) [])
  | c :: rest =>
    if c = '"' then .ok (decoded.reverse, rest)
    else if c = '\\' then
      match h : escape rest with
      | .error e => .error e
      | .ok (d, rest') =>
        have := length_of_escape h
        stringBody (d :: decoded) rest'
    else if isControl c then .error (.within .controlCharacter (c :: rest))
    else stringBody (c :: decoded) rest
termination_by t.length

theorem length_of_stringBody {decoded t s rest : Text}
    (h : stringBody decoded t = .ok (s, rest)) : rest.length < t.length := by
  fun_induction stringBody decoded t with
  | case1 => simp at h
  | case2 => simp_all
  | case3 => simp_all
  | case4 decoded rest d rest' _ _ _ ih =>
    have := ih h
    simp only [List.length_cons]
    omega
  | case5 => simp at h
  | case6 decoded c rest _ _ _ ih =>
    have := ih h
    simp only [List.length_cons]
    omega

/-- The text behind the escape of a string that is not decoded: four digits stand for any code
unit. -/
def skipEscape : Text → Except Fault Text
  | [] => .error (.before (.cutShort .string) [])
  | c :: rest =>
    if c ∈ ['"', '\\', '/', 'b', 'f', 'n', 'r', 't'] then .ok rest
    else if c = 'u' then (codeUnit rest).map Prod.snd
    else .error (.within .invalidEscape (c :: rest))

theorem length_of_skipEscape {t rest : Text} (h : skipEscape t = .ok rest) :
    rest.length < t.length := by
  cases t with
  | nil => simp [skipEscape] at h
  | cons c t =>
    simp only [skipEscape] at h
    split at h
    · simp_all
    · split at h
      · cases hc : codeUnit t with
        | error e => simp [hc, Except.map] at h
        | ok p =>
          have := length_of_codeUnit hc
          simp_all [Except.map]
          omega
      · simp at h

/-- The text behind the closing quote of a string that is not decoded. -/
def skipString (t : Text) : Except Fault Text :=
  match t with
  | [] => .error (.before (.cutShort .string) [])
  | c :: rest =>
    if c = '"' then .ok rest
    else if c = '\\' then
      match h : skipEscape rest with
      | .error e => .error e
      | .ok rest' =>
        have := length_of_skipEscape h
        skipString rest'
    else if isControl c then .error (.before .controlCharacter (c :: rest))
    else skipString rest
termination_by t.length

theorem length_of_skipString {t rest : Text} (h : skipString t = .ok rest) :
    rest.length < t.length := by
  fun_induction skipString t with
  | case1 => simp at h
  | case2 => simp_all
  | case3 => simp_all
  | case4 rest rest' _ _ _ ih =>
    have := ih h
    simp only [List.length_cons]
    omega
  | case5 => simp at h
  | case6 c rest _ _ _ ih =>
    have := ih h
    simp only [List.length_cons]
    omega

end AmbientDecls.Json
