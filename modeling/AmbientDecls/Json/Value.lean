import AmbientDecls.Json.Skip
import AmbientDecls.Metadata.Table

/-!
# Readers for values

Readers for strings, flags, arrays and tables, and for fields that may be `null`. A value of the
wrong type is read as far as it takes to report it: a scalar to its end, an array or an object not
at all.
-/

namespace AmbientDecls.Json

/-- The fault of a value that starts with `c` where another type is expected. -/
def mismatch (expected : String) (c : Char) (rest : Text) : Fault :=
  let wrong (found : Found) (rest : Text) : Fault := .before (.mismatch found expected) rest
  let literal (word : Text) (found : Found) : Fault :=
    match keyword word rest with
    | .error e => e
    | .ok rest => wrong found rest
  if c = 'n' then literal "ull".toList .null
  else if c = 't' then literal "rue".toList (.boolean true)
  else if c = 'f' then literal "alse".toList (.boolean false)
  else if c = '-' || c.isDigit then
    match number (c :: rest) with
    | .error e => e
    | .ok (found, rest) => wrong found rest
  else if c = '"' then
    match stringBody [] rest with
    | .error e => e
    | .ok (s, rest) => wrong (.string s) rest
  else if c = '[' then wrong .sequence (c :: rest)
  else if c = '{' then wrong .map (c :: rest)
  else .within .expectedValue (c :: rest)

/-- Goes on with the next token; a value must start there. -/
def startValue {α : Type} (t : Text) (read : Char → Text → Except Fault (α × Text)) :
    Except Fault (α × Text) :=
  match skipSpace t with
  | [] => .error (.within (.cutShort .value) [])
  | c :: rest => read c rest

theorem length_of_startValue {α : Type} {t rest : Text} {a : α}
    {read : Char → Text → Except Fault (α × Text)}
    (hread : ∀ {c r a rest}, read c r = .ok (a, rest) → rest.length ≤ r.length)
    (h : startValue t read = .ok (a, rest)) : rest.length < t.length := by
  have ht := length_skipSpace t
  unfold startValue at h
  split at h
  · simp at h
  · have := hread h
    simp_all
    omega

namespace Reader

variable {α β : Type}

/-- Reads a value and applies a function to it. -/
def map (f : α → β) (r : Reader α) : Reader β where
  run t := match r.run t with
    | .error e => .error e
    | .ok (a, rest) => .ok (f a, rest)
  advances := by
    intro t b rest h
    split at h
    · simp at h
    · next hr =>
      have := r.advances hr
      simp_all

def string : Reader String where
  run t := startValue t fun c rest =>
    if c = '"' then
      match stringBody [] rest with
      | .error e => .error e
      | .ok (s, rest) => .ok (String.ofList s, rest)
    else .error (mismatch "a string" c rest)
  advances := length_of_startValue <| by
    intro c r a rest h
    split at h
    · split at h
      · simp at h
      · next hs =>
        have := length_of_stringBody hs
        simp_all
        omega
    · simp at h

/-- A flag. -/
def bool : Reader Bool where
  run t := startValue t fun c rest =>
    if c = 't' then
      match keyword "rue".toList rest with
      | .error e => .error e
      | .ok rest => .ok (true, rest)
    else if c = 'f' then
      match keyword "alse".toList rest with
      | .error e => .error e
      | .ok rest => .ok (false, rest)
    else .error (mismatch "a boolean" c rest)
  advances := length_of_startValue <| by
    intro c r a rest h
    split at h
    · split at h
      · simp at h
      · next hs =>
        have := length_of_keyword hs
        simp_all
    · split at h
      · split at h
        · simp at h
        · next hs =>
          have := length_of_keyword hs
          simp_all
      · simp at h

/-- A value, or `null` for the default. Anything that begins like `null` has to be it. -/
def nullable (default : α) (r : Reader α) : Reader α where
  run t :=
    match skipSpace t with
    | 'n' :: rest =>
      match keyword "ull".toList rest with
      | .error e => .error e
      | .ok rest => .ok (default, rest)
    | _ => r.run t
  advances := by
    intro t a rest h
    have ht := length_skipSpace t
    split at h
    · split at h
      · simp at h
      · next hs =>
        have := length_of_keyword hs
        simp_all
        omega
    · exact r.advances h

def optional (r : Reader α) : Reader (Option α) := nullable none (r.map some)

/-- The elements of an array after those in `seen`, which are in reverse order, and the text
behind the closing bracket. -/
def elements (item : Reader α) (seen : List α) (first : Bool) (t : Text) :
    Except Fault (List α × Text) :=
  match hn : nextElement first t with
  | .error e => .error e
  | .ok (false, rest) => .ok (seen.reverse, rest)
  | .ok (true, rest) =>
    match hr : item.run rest with
    | .error e => .error e
    | .ok (a, rest') =>
      have := (length_of_nextElement hn).1
      have := item.advances hr
      elements item (a :: seen) false rest'
termination_by t.length

theorem length_of_elements {item : Reader α} {seen xs : List α} {first : Bool} {t rest : Text}
    (h : elements item seen first t = .ok (xs, rest)) : rest.length < t.length := by
  fun_induction elements item seen first t with
  | case1 => simp at h
  | case2 seen first t rest' hn =>
    have := (length_of_nextElement hn).2 rfl
    simp_all
  | case3 => simp at h
  | case4 seen first t rest' hn a r hr _ _ ih =>
    have := ih h
    omega

def list (item : Reader α) : Reader (List α) where
  run t := startValue t fun c rest =>
    if c = '[' then elements item [] true rest
    else .error (mismatch "a sequence" c rest)
  advances := length_of_startValue <| by
    intro c r a rest h
    split at h
    · exact Nat.le_of_lt (length_of_elements h)
    · simp at h

/-- The entries of an object after those in `seen`, and the text behind the closing brace. -/
def entries (item : Reader α) (seen : Table α) (first : Bool) (t : Text) :
    Except Fault (Table α × Text) :=
  match hn : nextKey first t with
  | .error e => .error e
  | .ok (false, rest) => .ok (seen, rest)
  | .ok (true, rest) =>
    match hs : stringBody [] rest with
    | .error e => .error e
    | .ok (key, rest₁) =>
      match hc : colon rest₁ with
      | .error e => .error e
      | .ok rest₂ =>
        match hr : item.run rest₂ with
        | .error e => .error e
        | .ok (a, rest₃) =>
          have := length_of_nextKey hn
          have := length_of_stringBody hs
          have := length_of_colon hc
          have := item.advances hr
          entries item (seen.insert (String.ofList key) a) false rest₃
termination_by t.length

theorem length_of_entries {item : Reader α} {seen table : Table α} {first : Bool} {t rest : Text}
    (h : entries item seen first t = .ok (table, rest)) : rest.length < t.length := by
  fun_induction entries item seen first t with
  | case1 => simp at h
  | case2 seen first t rest' hn =>
    have := length_of_nextKey hn
    simp_all
  | case3 => simp at h
  | case4 => simp at h
  | case5 => simp at h
  | case6 seen first t r hn key r₁ hs r₂ hc a r₃ hr _ _ _ _ ih =>
    have := ih h
    omega

/-- An object whose keys are data. Of the values under one key the last counts. -/
def table (item : Reader α) : Reader (Table α) where
  run t := startValue t fun c rest =>
    if c = '{' then entries item Table.empty true rest
    else .error (mismatch "a map" c rest)
  advances := length_of_startValue <| by
    intro c r a rest h
    split at h
    · exact Nat.le_of_lt (length_of_entries h)
    · simp at h

end Reader

end AmbientDecls.Json
