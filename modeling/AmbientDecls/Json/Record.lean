import AmbientDecls.Json.Value

/-!
# Readers for records

A record is written as an object with its fields under their keys, or as an array of its fields in
order. Keys that name no field are skipped with their values, a field that is given twice is a
fault, and a field that is not given keeps its default unless it is required.
-/

namespace AmbientDecls.Json

/-- A field of records of type `σ`: its key, and a reader for what its value makes of a record. -/
structure Field (σ : Type) where
  key : String
  read : Reader (σ → σ)
  required : Bool := false

/-- The written form of a record type. -/
structure Schema (σ : Type) where
  /-- The name of the type in messages. -/
  name : String
  /-- The record none of whose fields is given. -/
  empty : σ
  /-- The fields in their order in arrays. -/
  fields : List (Field σ)

namespace Schema

variable {σ : Type}

/-- How messages name what is expected. -/
def expected (s : Schema σ) : String := "struct " ++ s.name

def field? (s : Schema σ) (key : String) : Option (Field σ) := s.fields.find? (·.key == key)

/-- The first required field whose key was not seen. -/
def missing? (s : Schema σ) (seen : List String) : Option (Field σ) :=
  s.fields.find? fun f => f.required && ! seen.contains f.key

/-- The text after a closing brace, if one comes next, and otherwise from the next token on. -/
def afterBrace (t : Text) : Text :=
  match skipSpace t with
  | '}' :: rest => rest
  | rest => rest

/-- What the members of an object from here on make of `v`, and the text behind the object. -/
def members (s : Schema σ) (seen : List String) (v : σ) (first : Bool) (t : Text) :
    Except Fault (σ × Text) :=
  match hn : nextKey first t with
  | .error e => .error e
  | .ok (false, rest) =>
    match s.missing? seen with
    | some f => .error (.before (.missingField f.key) rest)
    | none => .ok (v, rest)
  | .ok (true, rest) =>
    match hs : stringBody [] rest with
    | .error e => .error e
    | .ok (key, rest₁) =>
      match s.field? (String.ofList key) with
      | none =>
        match hc : colon rest₁ with
        | .error e => .error e
        | .ok rest₂ =>
          match hr : skipValue rest₂ with
          | .error e => .error e
          | .ok rest₃ =>
            have := length_of_nextKey hn
            have := length_of_stringBody hs
            have := length_of_colon hc
            have := length_of_skipValue hr
            members s seen v false rest₃
      | some f =>
        if seen.contains f.key then
          .error (.before (.duplicateField f.key) (afterBrace rest₁))
        else
          match hc : colon rest₁ with
          | .error e => .error e
          | .ok rest₂ =>
            match hr : f.read.run rest₂ with
            | .error e => .error e
            | .ok (update, rest₃) =>
              have := length_of_nextKey hn
              have := length_of_stringBody hs
              have := length_of_colon hc
              have := f.read.advances hr
              members s (f.key :: seen) (update v) false rest₃
termination_by t.length

theorem length_of_members {s : Schema σ} {seen : List String} {v w : σ} {first : Bool}
    {t rest : Text} (h : members s seen v first t = .ok (w, rest)) : rest.length < t.length := by
  fun_induction members s seen v first t with
  | case3 seen v first t rest' hn =>
    have := length_of_nextKey hn
    simp_all
  | case7 | case11 =>
    rename_i ih
    have := ih h
    omega
  | _ => simp at h

/-- The text behind the closing bracket of an array all of whose fields are read. -/
def endOfArray (t : Text) : Except Fault Text :=
  match skipSpace t with
  | [] => .error (.within (.cutShort .list) [])
  | ']' :: rest => .ok rest
  | ',' :: rest =>
    match skipSpace rest with
    | ']' :: rest => .error (.within .trailingComma (']' :: rest))
    | rest => .error (.within .trailingCharacters rest)
  | rest => .error (.within .trailingCharacters rest)

theorem length_of_endOfArray {t rest : Text} (h : endOfArray t = .ok rest) :
    rest.length < t.length := by
  unfold endOfArray at h
  split at h
  · simp at h
  · next rest' hs =>
    cases h
    exact length_of_skipSpace hs
  · split at h <;> simp at h
  · simp at h

/-- The number of a required field among those that an array leaves out, from `index` on. -/
def firstRequired (index : Nat) : List (Field σ) → Option Nat
  | [] => none
  | f :: fs => if f.required then some index else firstRequired (index + 1) fs

/-- What the elements of an array, for the fields from number `index` on, make of `v`, and the text
behind the array. -/
def positions (s : Schema σ) (index : Nat) (v : σ) (t : Text) :
    List (Field σ) → Except Fault (σ × Text)
  | [] =>
    match endOfArray t with
    | .error e => .error e
    | .ok rest => .ok (v, rest)
  | f :: fs =>
    match nextElement (index == 0) t with
    | .error e => .error e
    | .ok (false, rest) =>
      match firstRequired index (f :: fs) with
      | some n => .error (.before (.tooShort n s.expected s.fields.length) rest)
      | none => .ok (v, rest)
    | .ok (true, rest) =>
      match f.read.run rest with
      | .error e => .error e
      | .ok (update, rest) => positions s (index + 1) (update v) rest fs

theorem length_of_positions {s : Schema σ} {index : Nat} {v w : σ} {t rest : Text}
    {fs : List (Field σ)} (h : positions s index v t fs = .ok (w, rest)) :
    rest.length < t.length := by
  induction fs generalizing index v t with
  | nil =>
    simp only [positions] at h
    split at h
    · simp at h
    · next he =>
      have := length_of_endOfArray he
      simp_all
  | cons f fs ih =>
    simp only [positions] at h
    split at h
    · simp at h
    · next hn =>
      have := (length_of_nextElement hn).2 rfl
      split at h
      · simp at h
      · simp_all
    · next hn =>
      have := (length_of_nextElement hn).1
      split at h
      · simp at h
      · next hr =>
        have := f.read.advances hr
        have := ih h
        omega

def reader (s : Schema σ) : Reader σ where
  run t := startValue t fun c rest =>
    if c = '{' then members s [] s.empty true rest
    else if c = '[' then positions s 0 s.empty rest s.fields
    else .error (mismatch s.expected c rest)
  advances := length_of_startValue <| by
    intro c r a rest h
    split at h
    · exact Nat.le_of_lt (length_of_members h)
    · split at h
      · exact Nat.le_of_lt (length_of_positions h)
      · simp at h

end Schema

end AmbientDecls.Json
