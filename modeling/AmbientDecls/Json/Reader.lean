import AmbientDecls.Json.Fault

/-!
# Readers

A reader takes a value off the front of a text and leaves the rest, which is shorter. Readers for
single values are built from the steps in this file: blanks, keywords, and the punctuation of
arrays and objects.
-/

namespace AmbientDecls.Json

/-- A way to read a value of type `α` from the front of a text. -/
structure Reader (α : Type) where
  run : Text → Except Fault (α × Text)
  advances : ∀ {t : Text} {a : α} {rest : Text}, run t = .ok (a, rest) → rest.length < t.length

/-- The characters that may stand between tokens. -/
def isSpace (c : Char) : Bool := c == ' ' || c == '\t' || c == '\n' || c == '\r'

def skipSpace (t : Text) : Text := t.dropWhile isSpace

theorem length_skipSpace (t : Text) : (skipSpace t).length ≤ t.length :=
  (List.dropWhile_sublist isSpace).length_le

theorem length_of_skipSpace {c : Char} {t rest : Text} (h : skipSpace t = c :: rest) :
    rest.length < t.length := by
  have := length_skipSpace t
  rwa [h] at this

/-- The text after a given word. -/
def keyword : Text → Text → Except Fault Text
  | [], t => .ok t
  | _ :: _, [] => .error (.before (.cutShort .value) [])
  | e :: word, c :: t =>
    if c = e then keyword word t else .error (.within .expectedIdent (c :: t))

theorem length_of_keyword {word t rest : Text} (h : keyword word t = .ok rest) :
    rest.length ≤ t.length := by
  induction word generalizing t with
  | nil => simp_all [keyword]
  | cons e word ih =>
    cases t with
    | nil => simp [keyword] at h
    | cons c t =>
      simp only [keyword] at h
      split at h
      · have := ih h
        simp only [List.length_cons]
        omega
      · simp at h

/-- The text after the opening bracket of an array goes on with an element (`true`) or ends the
array (`false`); `first` tells that no element stands before. -/
def nextElement (first : Bool) (t : Text) : Except Fault (Bool × Text) :=
  match skipSpace t with
  | [] => .error (.within (.cutShort .list) [])
  | ']' :: rest => .ok (false, rest)
  | c :: rest =>
    if first then .ok (true, c :: rest)
    else if c = ',' then
      match skipSpace rest with
      | [] => .error (.within (.cutShort .value) [])
      | ']' :: rest => .error (.within .trailingComma (']' :: rest))
      | rest => .ok (true, rest)
    else .error (.within .expectedListCommaOrEnd (c :: rest))

theorem length_of_nextElement {first more : Bool} {t rest : Text}
    (h : nextElement first t = .ok (more, rest)) :
    rest.length ≤ t.length ∧ (more = false → rest.length < t.length) := by
  unfold nextElement at h
  split at h
  · simp at h
  · next rest' hs =>
    cases h
    have := length_of_skipSpace hs
    exact ⟨Nat.le_of_lt this, fun _ => this⟩
  · next c rest' _ hs =>
    have ht := length_of_skipSpace hs
    have hr := length_skipSpace rest'
    split at h
    · cases h
      exact ⟨ht, nofun⟩
    · split at h
      · split at h
        · simp at h
        · simp at h
        · cases h
          exact ⟨by omega, nofun⟩
      · simp at h

/-- The text after the opening brace of an object goes on with a key (`true`; its opening quote
is taken off) or ends the object (`false`). -/
def nextKey (first : Bool) (t : Text) : Except Fault (Bool × Text) :=
  match skipSpace t with
  | [] => .error (.within (.cutShort .object) [])
  | '}' :: rest => .ok (false, rest)
  | c :: rest =>
    if first then
      if c = '"' then .ok (true, rest) else .error (.within .keyMustBeString (c :: rest))
    else if c = ',' then
      match skipSpace rest with
      | [] => .error (.within (.cutShort .value) [])
      | '"' :: rest => .ok (true, rest)
      | '}' :: rest => .error (.within .trailingComma ('}' :: rest))
      | rest => .error (.within .keyMustBeString rest)
    else .error (.within .expectedObjectCommaOrEnd (c :: rest))

theorem length_of_nextKey {first more : Bool} {t rest : Text}
    (h : nextKey first t = .ok (more, rest)) : rest.length < t.length := by
  unfold nextKey at h
  split at h
  · simp at h
  · next rest' hs =>
    cases h
    exact length_of_skipSpace hs
  · next c rest' _ hs =>
    have ht := length_of_skipSpace hs
    split at h
    · split at h
      · cases h
        exact ht
      · simp at h
    · split at h
      · split at h
        · simp at h
        · next r hr =>
          cases h
          have := length_of_skipSpace hr
          omega
        · simp at h
        · simp at h
      · simp at h

/-- The text after the colon behind a key. -/
def colon (t : Text) : Except Fault Text :=
  match skipSpace t with
  | [] => .error (.within (.cutShort .object) [])
  | ':' :: rest => .ok rest
  | rest => .error (.within .expectedColon rest)

theorem length_of_colon {t rest : Text} (h : colon t = .ok rest) : rest.length < t.length := by
  unfold colon at h
  split at h
  · simp at h
  · next rest' hs =>
    cases h
    exact length_of_skipSpace hs
  · simp at h

end AmbientDecls.Json
