import AmbientDecls.Toolbox.Class

/-!
# Regular expressions

The regular expressions of line tools, and what they match. A match is the leftmost one, and of
those the longest; among equally long ones the parts that come first are as long as they can be.
-/

namespace AmbientDecls.Toolbox

/-- A set of bytes: those in the ranges, or all others. -/
structure ByteSet where
  inverted : Bool := false
  ranges : List (Char × Char)
deriving DecidableEq, Repr, Inhabited

namespace ByteSet

def holds (s : ByteSet) (c : Char) : Bool :=
  (s.ranges.any fun (first, last) => first ≤ c && c ≤ last) != s.inverted

def ofClass (member : Char → Bool) : ByteSet :=
  ⟨false, (allBytes.filter member).map fun c => (c, c)⟩

/-- The ranges with the other case of every letter in them. -/
def foldCase (ranges : List (Char × Char)) : List (Char × Char) :=
  let holds := fun c : Char => ranges.any fun (first, last) => first ≤ c && c ≤ last
  ranges ++ (allBytes.filter fun c => holds c.toLower || holds c.toUpper).map fun c => (c, c)

end ByteSet

/-- A place that a match may have to go through. -/
inductive Anchor where
  | start
  | finish
  /-- The start of the text or of a line in it. -/
  | lineStart
  /-- The end of the text or of a line in it. -/
  | lineEnd
  | wordStart
  | wordEnd
  | boundary
  | noBoundary
deriving DecidableEq, Repr, Inhabited

/-- A regular expression. -/
inductive Regex where
  | empty
  | set (s : ByteSet)
  | anchor (a : Anchor)
  | cat (a b : Regex)
  | alt (a b : Regex)
  | rep (r : Regex) (least : Nat) (most : Option Nat)
  | group (n : Nat) (r : Regex)
  /-- What a group matched, perhaps in another case. -/
  | back (n : Nat) (fold : Bool)
deriving DecidableEq, Repr, Inhabited

namespace Regex

/-- Whether an expression refers back to its groups. -/
def hasBack : Regex → Bool
  | empty | set _ | anchor _ => false
  | cat a b | alt a b => hasBack a || hasBack b
  | rep r _ _ | group _ r => hasBack r
  | back .. => true

/-- Where a match has come to: how many bytes are behind, the last of them, those that are left,
and what the groups matched, the latest first. -/
structure Spot where
  position : Nat := 0
  before : Option Char := none
  rest : Bytes
  groups : List (Nat × Bytes) := []
deriving DecidableEq, Repr, Inhabited

namespace Spot

def groupAt? (s : Spot) (n : Nat) : Option Bytes := s.groups.lookup n

/-- The spot so many bytes further on. -/
def skip (s : Spot) : (count : Nat) → Spot
  | 0 => s
  | count + 1 =>
    match s.rest with
    | [] => s
    | c :: rest => skip { s with position := s.position + 1, before := some c, rest } count

/-- Whether the byte before a spot belongs to a word. -/
def wordBefore (s : Spot) : Bool := (s.before.map isNameChar).getD false

/-- Whether the byte after a spot belongs to a word. -/
def wordAfter (s : Spot) : Bool := (s.rest.head?.map isNameChar).getD false

/-- Whether a spot is where an anchor asks for. -/
def isAt (s : Spot) : Anchor → Bool
  | .start => s.position == 0
  | .finish => s.rest.isEmpty
  | .lineStart => s.position == 0 || s.before == some '\n'
  | .lineEnd => s.rest.isEmpty || s.rest.head? == some '\n'
  | .wordStart => ! s.wordBefore && s.wordAfter
  | .wordEnd => s.wordBefore && ! s.wordAfter
  | .boundary => s.wordBefore != s.wordAfter
  | .noBoundary => s.wordBefore == s.wordAfter

end Spot

/-- Whether spots stand in order, the furthest first, and none beside another. -/
def isOrdered : List Spot → Bool
  | a :: b :: rest => b.position < a.position && isOrdered (b :: rest)
  | _ => true

def firsts : List Spot → List Spot
  | a :: b :: rest =>
    if a.position = b.position then firsts (a :: rest) else a :: firsts (b :: rest)
  | spots => spots
termination_by spots => spots.length

/-- The spots in order, the furthest first. If all that counts of a spot is where it is, only the
first one at every position stays. -/
def arrange (all : Bool) (spots : List Spot) : List Spot :=
  if isOrdered spots then spots
  else
    let sorted := spots.mergeSort fun a b => b.position ≤ a.position
    if all then sorted else firsts sorted

/-- The spots behind up to `most` bytes of a set, the furthest first, before those `passed`. -/
def behindRun (members : ByteSet) (s : Spot) (least : Nat) (passed : List Spot) :
    (most : Nat) → Bytes → List Spot
  | 0, _ => if least = 0 then s :: passed else passed
  | _ + 1, [] => if least = 0 then s :: passed else passed
  | most + 1, c :: rest =>
    let passed := if least = 0 then s :: passed else passed
    if members.holds c then
      behindRun members { s with position := s.position + 1, before := some c, rest } (least - 1)
        passed most rest
    else passed

/-- The spots that `step` leads to when it is taken `least` to `most` times. Steps beyond the least
have to get on. -/
def repeated (all : Bool) (step : Spot → List Spot) : (fuel : Nat) → (least : Nat) →
    (most : Option Nat) → Spot → List Spot
  | 0, least, _, s => if least = 0 then [s] else []
  | fuel + 1, least, most, s =>
    let further :=
      if most = some 0 then []
      else ((step s).filter fun t => 0 < least || s.position < t.position).flatMap
        (repeated all step fuel (least - 1) (most.map (· - 1)))
    arrange all (if least = 0 then further ++ [s] else further)

/-- The spots behind what an expression may match, the furthest first. -/
def ends (all : Bool) : Regex → Spot → List Spot
  | empty, s => [s]
  | set members, s =>
    match s.rest with
    | [] => []
    | c :: rest =>
      if members.holds c then
        [{ s with position := s.position + 1, before := some c, rest }]
      else []
  | anchor a, s => if s.isAt a then [s] else []
  | cat a b, s => arrange all ((ends all a s).flatMap (ends all b))
  | alt a b, s => arrange all (ends all a s ++ ends all b s)
  | rep (set members) least most, s =>
    behindRun members s least [] (most.getD s.rest.length) s.rest
  | rep r least most, s =>
    repeated all (ends all r) (s.rest.length + least + 1) least most s
  | group n r, s =>
    (ends all r s).map fun t =>
      { t with groups := (n, s.rest.take (t.position - s.position)) :: t.groups }
  | back n fold, s =>
    match s.groupAt? n with
    | none => []
    | some found =>
      let piece := s.rest.take found.length
      if piece = found || (fold && piece.map Char.toLower = found.map Char.toLower) then
        [s.skip found.length]
      else []

/-- A match: what was passed over to get to it, reversed, the spot where it starts, and the one
where it ends. -/
structure Match where
  passed : Bytes
  first : Spot
  last : Spot

namespace Match

def found (m : Match) : Bytes := m.first.rest.take (m.last.position - m.first.position)

/-- What a group matched; the whole match is group zero. -/
def group (m : Match) (n : Nat) : Bytes :=
  if n = 0 then m.found else (m.last.groupAt? n).getD []

end Match

def searchFrom (r : Regex) (all : Bool) (passed : Bytes) (s : Spot) : Bytes → Option Match
  | [] => (ends all r s).head?.map fun last => ⟨passed, s, last⟩
  | c :: rest =>
    match (ends all r s).head? with
    | some last => some ⟨passed, s, last⟩
    | none =>
      searchFrom r all (c :: passed) ⟨s.position + 1, some c, rest, []⟩ rest

def search (r : Regex) (s : Spot) : Option Match := searchFrom r r.hasBack [] s s.rest

/-- Whether an expression matches somewhere in a text. -/
def occursIn (r : Regex) (text : Bytes) : Bool := (search r { rest := text }).isSome

end Regex

end AmbientDecls.Toolbox
