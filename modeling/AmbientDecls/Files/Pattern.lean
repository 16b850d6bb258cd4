import AmbientDecls.Files.Path

/-!
# File name patterns

A pattern is a path with wildcards. A question mark stands for any character, an asterisk for any
run of them, and brackets for one character of a set. Two asterisks that are a whole piece of the
path stand for any number of directories.
-/

namespace AmbientDecls

namespace Pattern

/-- One entry of a bracketed set. -/
inductive CharRange where
  | single (c : Char)
  | range (first last : Char)
deriving DecidableEq, Repr, Inhabited

def CharRange.contains (c : Char) : CharRange → Bool
  | single d => c == d
  | range first last => first ≤ c && c ≤ last

/-- One part of a pattern for a name. -/
inductive Token where
  | char (c : Char)
  | anyChar
  | anyRun
  /-- Any number of directories. -/
  | anyDepth
  | oneOf (set : List CharRange)
  | noneOf (set : List CharRange)
deriving DecidableEq, Repr, Inhabited

/-- What is wrong with a pattern. -/
inductive Problem where
  | brokenSet
  | tooManyStars
  | starsInName
deriving DecidableEq, Repr, Inhabited

/-- A problem and the number of characters before it. -/
structure Fault where
  position : Nat
  problem : Problem
deriving DecidableEq, Repr, Inhabited

def Problem.message : Problem → String
  | brokenSet => "invalid range pattern"
  | tooManyStars => "wildcards are either regular `*` or recursive `**`"
  | starsInName => "recursive wildcards must form a single path component"

def Fault.message (f : Fault) : String :=
  "Pattern syntax error near position " ++ toString f.position ++ ": " ++ f.problem.message

/-- The entries of a set; a hyphen between two characters makes them the ends of a range. -/
def ranges : Text → List CharRange
  | first :: '-' :: last :: rest => .range first last :: ranges rest
  | c :: rest => .single c :: ranges rest
  | [] => []

/-- A set whose opening bracket is taken off, with the text behind its closing one. The first
character of a set is in it whatever it is, and an exclamation mark before it inverts the set. -/
def bracket : Text → Option (Token × Text)
  | '!' :: first :: rest =>
    if rest.contains ']' then
      some (.noneOf (ranges (first :: rest.takeWhile (· != ']'))),
        (rest.dropWhile (· != ']')).drop 1)
    else none
  | '!' :: [] => none
  | first :: rest =>
    if rest.contains ']' then
      some (.oneOf (ranges (first :: rest.takeWhile (· != ']'))),
        (rest.dropWhile (· != ']')).drop 1)
    else none
  | [] => none

theorem length_of_bracket {t rest : Text} {token : Token}
    (h : bracket t = some (token, rest)) : rest.length < t.length := by
  have hd : ∀ r : Text, ((r.dropWhile (· != ']')).drop 1).length ≤ r.length := by
    intro r
    have := (List.dropWhile_sublist (l := r) (· != ']')).length_le
    simp only [List.length_drop]
    omega
  unfold bracket at h
  split at h
  · next first r =>
    have := hd r
    split at h
    · simp only [Option.some.injEq, Prod.mk.injEq] at h
      simp only [← h.2, List.length_cons]
      omega
    · simp at h
  · simp at h
  · next first r _ _ =>
    have := hd r
    split at h
    · simp only [Option.some.injEq, Prod.mk.injEq] at h
      simp only [← h.2, List.length_cons]
      omega
    · simp at h
  · simp at h

/-- The parts of a pattern from position `position` on, where `previous` is the character before
it. -/
def tokens (position : Nat) (previous : Option Char) (t : Text) :
    Except Fault (List Token) :=
  match t with
  | [] => .ok []
  | '*' :: '*' :: '*' :: _ => .error ⟨position + 2, .tooManyStars⟩
  | '*' :: '*' :: rest =>
    if previous.isSome && previous != some '/' then .error ⟨position - 1, .starsInName⟩
    else match rest with
      | [] => .ok [.anyDepth]
      | '/' :: rest => (tokens (position + 3) (some '/') rest).map (.anyDepth :: ·)
      | _ => .error ⟨position + 2, .starsInName⟩
  | '*' :: rest => (tokens (position + 1) (some '*') rest).map (.anyRun :: ·)
  | '?' :: rest => (tokens (position + 1) (some '?') rest).map (.anyChar :: ·)
  | '[' :: rest =>
    match h : bracket rest with
    | none => .error ⟨position, .brokenSet⟩
    | some (token, rest') =>
      have := length_of_bracket h
      (tokens (position + 1 + (rest.length - rest'.length)) (some ']') rest').map (token :: ·)
  | c :: rest => (tokens (position + 1) (some c) rest).map (.char c :: ·)
termination_by t.length

/-- Whether a name matches the parts of a pattern. -/
def matchesName : List Token → Text → Bool
  | [], name => name.isEmpty
  | .anyRun :: rest, name => matchesRun rest name
  | .anyDepth :: rest, name => matchesRun rest name
  | _ :: _, [] => false
  | .char d :: rest, c :: name => c == d && matchesName rest name
  | .anyChar :: rest, _ :: name => matchesName rest name
  | .oneOf set :: rest, c :: name => set.any (·.contains c) && matchesName rest name
  | .noneOf set :: rest, c :: name => ! set.any (·.contains c) && matchesName rest name
where
  /-- Whether some end of a name matches the parts behind a run. -/
  matchesRun (rest : List Token) : Text → Bool
    | [] => matchesName rest []
    | c :: name => matchesName rest (c :: name) || matchesRun rest name

/-- The characters of a pattern without wildcards. -/
def literal? : List Token → Option Text
  | [] => some []
  | .char c :: rest => (literal? rest).map (c :: ·)
  | _ :: _ => none

end Pattern

/-- A pattern in the form in which it is matched: the parts of each piece of the path. -/
structure Pattern where
  isAbsolute : Bool
  pieces : List (List Pattern.Token)
  /-- Whether only directories match, because the pattern ends in a slash. -/
  onlyDirectories : Bool
deriving DecidableEq, Repr, Inhabited

namespace Pattern

/-- Without the empty piece behind a slash at the end. -/
def dropLastEmpty (pieces : List Text) : List Text :=
  if pieces.getLast? == some [] then pieces.dropLast else pieces

/-- Reads a pattern. It must be one as a whole before its pieces are read one by one. -/
def parse (t : Text) : Except Fault Pattern := do
  let _ ← tokens 0 none t
  let body := if t.head? == some '/' then t.drop 1 else t
  let pieces := if body.isEmpty then [[]] else dropLastEmpty (Text.split (· == '/') body)
  let parsed ← pieces.mapM (tokens 0 none)
  return ⟨t.head? == some '/', parsed, t.getLast? == some '/'⟩

end Pattern

end AmbientDecls
