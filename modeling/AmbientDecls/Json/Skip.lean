import AmbientDecls.Json.Number
import AmbientDecls.Json.StringBody

/-!
# Skipping values

A value under a key that means nothing to the reader is skipped: only its end is looked for, with
the brackets that are open kept in a list, so that no depth is too great.
-/

namespace AmbientDecls.Json

inductive Bracket where
  | array
  | object
deriving DecidableEq, Repr, Inhabited

/-- The part of a text that a bracket opens. -/
def Bracket.part : Bracket → Part
  | array => .list
  | object => .object

/-- What else than a comma or the closing bracket was found. -/
def Bracket.expected : Bracket → Cause
  | array => .expectedListCommaOrEnd
  | object => .expectedObjectCommaOrEnd

def Bracket.closing : Bracket → Char
  | array => ']'
  | object => '}'

/-- The text behind a key and its colon. -/
def skipKey (t : Text) : Except Fault Text :=
  match skipSpace t with
  | [] => .error (.within (.cutShort .object) [])
  | c :: rest =>
    if c = '"' then
      match skipString rest with
      | .error e => .error e
      | .ok rest => colon rest
    else .error (.within .keyMustBeString (c :: rest))

/-- The text where the next value inside a bracket starts. -/
def Bracket.nextValue (b : Bracket) (t : Text) : Except Fault Text :=
  match b with
  | array => .ok t
  | object => skipKey t

/-- The text behind a value that holds no other, which starts with `c`. -/
def skipScalar (c : Char) (rest : Text) : Except Fault Text :=
  if c = 'n' then keyword "ull".toList rest
  else if c = 't' then keyword "rue".toList rest
  else if c = 'f' then keyword "alse".toList rest
  else if c = '"' then skipString rest
  else if c = '-' then skipUnsigned rest
  else if c.isDigit then skipUnsigned (c :: rest)
  else .error (.within .expectedValue (c :: rest))

theorem length_of_skipKey {t rest : Text} (h : skipKey t = .ok rest) :
    rest.length < t.length := by
  unfold skipKey at h
  split at h
  · simp at h
  · next c r hs =>
    have := length_of_skipSpace hs
    split at h
    · split at h
      · simp at h
      · next hk =>
        have := length_of_skipString hk
        have := length_of_colon h
        omega
    · simp at h

theorem Bracket.length_of_nextValue {b : Bracket} {t rest : Text}
    (h : b.nextValue t = .ok rest) : rest.length ≤ t.length := by
  cases b with
  | array => simp_all [nextValue]
  | object => exact Nat.le_of_lt (length_of_skipKey h)

theorem length_of_skipScalar {c : Char} {r rest : Text} (h : skipScalar c r = .ok rest) :
    rest.length ≤ r.length := by
  unfold skipScalar at h
  split at h
  · exact length_of_keyword h
  · split at h
    · exact length_of_keyword h
    · split at h
      · exact length_of_keyword h
      · split at h
        · exact Nat.le_of_lt (length_of_skipString h)
        · split at h
          · exact Nat.le_of_lt (length_of_skipUnsigned h)
          · split at h
            · have := length_of_skipUnsigned h
              simp only [List.length_cons] at this
              omega
            · simp at h

mutual

/-- The text behind a value that stands inside the open brackets, and behind these. -/
def skipInside (outer : List Bracket) (t : Text) : Except Fault Text :=
  match hs : skipSpace t with
  | [] => .error (.within (.cutShort .value) [])
  | c :: rest =>
    have := length_of_skipSpace hs
    if c = '[' then skipFirst .array outer rest
    else if c = '{' then skipFirst .object outer rest
    else
      match h : skipScalar c rest with
      | .error e => .error e
      | .ok rest' =>
        have := length_of_skipScalar h
        skipClosing outer rest'
termination_by 2 * t.length

/-- The text behind a bracket that was just opened, and behind those around it. -/
def skipFirst (b : Bracket) (outer : List Bracket) (t : Text) : Except Fault Text :=
  match hs : skipSpace t with
  | [] => .error (.within (.cutShort b.part) [])
  | c :: rest =>
    have := length_of_skipSpace hs
    if c = b.closing then skipClosing outer rest
    else
      match h : b.nextValue (c :: rest) with
      | .error e => .error e
      | .ok rest' =>
        have : rest'.length ≤ rest.length + 1 := Bracket.length_of_nextValue h
        skipInside (b :: outer) rest'
termination_by 2 * t.length + 1

/-- The text behind the open brackets, right behind a value. -/
def skipClosing (brackets : List Bracket) (t : Text) : Except Fault Text :=
  match brackets with
  | [] => .ok t
  | b :: outer =>
    match hs : skipSpace t with
    | [] => .error (.within (.cutShort b.part) [])
    | c :: rest =>
      have := length_of_skipSpace hs
      if c = b.closing then skipClosing outer rest
      else if c = ',' then
        match h : b.nextValue rest with
        | .error e => .error e
        | .ok rest' =>
          have := Bracket.length_of_nextValue h
          skipInside (b :: outer) rest'
      else .error (.within b.expected (c :: rest))
termination_by 2 * t.length

end

mutual

theorem length_of_skipInside {outer : List Bracket} {t rest : Text}
    (h : skipInside outer t = .ok rest) : rest.length < t.length := by
  rw [skipInside] at h
  split at h
  · simp at h
  · next c r hs =>
    have := length_of_skipSpace hs
    split at h
    · have := length_of_skipFirst h
      omega
    · split at h
      · have := length_of_skipFirst h
        omega
      · split at h
        · simp at h
        · next r' hk =>
          have := length_of_skipScalar hk
          have := length_of_skipClosing h
          omega
termination_by 2 * t.length

theorem length_of_skipFirst {b : Bracket} {outer : List Bracket} {t rest : Text}
    (h : skipFirst b outer t = .ok rest) : rest.length < t.length := by
  rw [skipFirst] at h
  split at h
  · simp at h
  · next c r hs =>
    have := length_of_skipSpace hs
    split at h
    · have := length_of_skipClosing h
      omega
    · split at h
      · simp at h
      · next r' hk =>
        have : r'.length ≤ r.length + 1 := Bracket.length_of_nextValue hk
        have := length_of_skipInside h
        omega
termination_by 2 * t.length + 1

theorem length_of_skipClosing {outer : List Bracket} {t rest : Text}
    (h : skipClosing outer t = .ok rest) : rest.length ≤ t.length := by
  cases outer with
  | nil => simp_all [skipClosing]
  | cons b outer =>
    rw [skipClosing] at h
    split at h
    · simp at h
    · next c r hs =>
      have := length_of_skipSpace hs
      split at h
      · have := length_of_skipClosing h
        omega
      · split at h
        · split at h
          · simp at h
          · next r' hk =>
            have := Bracket.length_of_nextValue hk
            have := length_of_skipInside h
            omega
        · simp at h
termination_by 2 * t.length

end

/-- The text behind a value. -/
def skipValue (t : Text) : Except Fault Text := skipInside [] t

theorem length_of_skipValue {t rest : Text} (h : skipValue t = .ok rest) :
    rest.length < t.length :=
  length_of_skipInside h

end AmbientDecls.Json
