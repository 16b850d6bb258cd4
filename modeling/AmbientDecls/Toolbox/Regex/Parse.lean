import AmbientDecls.Toolbox.Regex.Basic

/-!
# Reading regular expressions

There are two ways to write regular expressions. In the plain one the signs for groups, choices and
bounds have backslashes in front; in the extended one those without are the signs.
-/

namespace AmbientDecls.Toolbox

/-- How an expression is written, and what it is for. -/
structure RegexStyle where
  extended : Bool := false
  /-- Whether letters match in either case. -/
  fold : Bool := false
  /-- Whether the anchors match at the lines in a text. -/
  multiline : Bool := false
  /-- Whether signs that repeat nothing are let pass. -/
  lenient : Bool := false
  /-- Whether an opening brace that repeats nothing is left out. -/
  dropsBraces : Bool := false
deriving DecidableEq, Repr, Inhabited

/-- What is wrong with an expression. -/
inductive RegexFault where
  | trailingBackslash
  | badReference
  | unmatchedBracket
  | unmatchedOpen
  | unmatchedClose
  | unmatchedBrace
  | badBounds
  | badRange
  | badClass
  | badCollation
  | badPattern
  | bareClass
  | nothingToRepeat
  | tooBig
deriving DecidableEq, Repr, Inhabited

def RegexFault.message : RegexFault → String
  | trailingBackslash => "Trailing backslash"
  | badReference => "Invalid back reference"
  | unmatchedBracket => "Unmatched [, [^, [:, [., or [="
  | unmatchedOpen => "Unmatched ( or \\("
  | unmatchedClose => "Unmatched ) or \\)"
  | unmatchedBrace => "Unmatched \\\x7b"
  | badBounds => "Invalid content of \\\x7b\\\x7d"
  | badRange => "Invalid range end"
  | badClass => "Invalid character class name"
  | badCollation => "Invalid collation character"
  | badPattern => "Invalid regular expression"
  | bareClass => "character class syntax is [[:space:]], not [:space:]"
  | nothingToRepeat => "Invalid preceding regular expression"
  | tooBig => "Regular expression too big"

namespace Regex

inductive Sign where
  | opening
  | closing
  | bar
  | star
  | plus
  | question
  | brace
  | caret
  | dollar
  | any
  | bracket
  | anchor (a : Anchor)
  | set (s : ByteSet)
  | back (n : Nat)
  | byte (c : Char)
deriving DecidableEq, Repr, Inhabited

/-- The sign of a byte behind a backslash that both styles know. -/
def escapedSign (c : Char) : Sign :=
  match c with
  | 'w' => .set (.ofClass isNameChar)
  | 'W' => .set { ByteSet.ofClass isNameChar with inverted := true }
  | 's' => .set (.ofClass isSpace)
  | 'S' => .set { ByteSet.ofClass isSpace with inverted := true }
  | 'b' => .anchor .boundary
  | 'B' => .anchor .noBoundary
  | '<' => .anchor .wordStart
  | '>' => .anchor .wordEnd
  | '\x60' => .anchor .start
  | '\'' => .anchor .finish
  | c => if '1' ≤ c && c ≤ '9' then .back (c.toNat - '0'.toNat) else .byte c

/-- The sign of a bare byte in the extended style, or of an escaped one in the plain style. -/
def markedSign? (c : Char) : Option Sign :=
  match c with
  | '(' => some .opening
  | ')' => some .closing
  | '|' => some .bar
  | '+' => some .plus
  | '?' => some .question
  | '\x7b' => some .brace
  | _ => none

def sign (style : RegexStyle) : Bytes → Except RegexFault (Option (Sign × Bytes))
  | [] => .ok none
  | ['\\'] => .error .trailingBackslash
  | '\\' :: c :: rest =>
    if style.extended then
      .ok (some ((markedSign? c).elim (escapedSign c) fun _ => .byte c, rest))
    else .ok (some ((markedSign? c).getD (escapedSign c), rest))
  | '.' :: rest => .ok (some (.any, rest))
  | '*' :: rest => .ok (some (.star, rest))
  | '^' :: rest => .ok (some (.caret, rest))
  | '$' :: rest => .ok (some (.dollar, rest))
  | '[' :: rest => .ok (some (.bracket, rest))
  | c :: rest =>
    if style.extended then .ok (some ((markedSign? c).getD (.byte c), rest))
    else .ok (some (.byte c, rest))

/-- What stands before a sign of two bytes, and what follows it. -/
def upTo (a b : Char) : Bytes → Option (Bytes × Bytes)
  | [] => none
  | c :: rest =>
    match rest with
    | [] => none
    | d :: rest' =>
      if c = a && d = b then some ([], rest')
      else (upTo a b rest).map fun (found, rest) => (c :: found, rest)

/-- The end of a range or a single member of a bracketed set, and what follows. -/
def member : Bytes → Except RegexFault (Char × Bytes)
  | '[' :: '.' :: rest =>
    match upTo '.' ']' rest with
    | some ([c], rest) => .ok (c, rest)
    | some _ => .error .badCollation
    | none => .error .unmatchedBracket
  | '[' :: '=' :: rest =>
    match upTo '=' ']' rest with
    | some ([c], rest) => .ok (c, rest)
    | some _ => .error .badCollation
    | none => .error .unmatchedBracket
  | c :: rest => .ok (c, rest)
  | [] => .error .unmatchedBracket

/-- The ranges of a bracketed set up to its closing bracket, and what follows that. A closing
bracket that comes first is a member. -/
def bracketed (isFirst : Bool) : (fuel : Nat) → Bytes →
    Except RegexFault (List (Char × Char) × Bytes)
  | 0, _ => .error .unmatchedBracket
  | _, [] => .error .unmatchedBracket
  | fuel + 1, t => do
    match isFirst, t with
    | false, ']' :: rest => return ([], rest)
    | _, '[' :: ':' :: rest =>
      let some (name, rest) := upTo ':' ']' rest | throw .unmatchedBracket
      let some isMember := classOf? name | throw .badClass
      let (ranges, rest) ← bracketed false fuel rest
      return ((ByteSet.ofClass isMember).ranges ++ ranges, rest)
    | _, t =>
      let (first, rest) ← member t
      let (last, rest) ← match rest with
        | '-' :: ']' :: _ => pure (first, rest)
        | '-' :: rest => member rest
        | rest => pure (first, rest)
      if last < first then throw .badRange
      match rest with
      | '-' :: c :: _ => if last ≠ first && c ≠ ']' then throw .badRange
      | _ => pure ()
      let (ranges, rest) ← bracketed false fuel rest
      return ((first, last) :: ranges, rest)

/-- Whether a bracketed set looks like a class that lacks the second pair of brackets. -/
def isBareClass : Bytes → Bool
  | ':' :: rest =>
    let inner := rest.takeWhile fun c => c != ']' && c != '[' && c != '-'
    (rest.drop inner.length).head? == some ']' && inner.getLast? == some ':' &&
      inner.any (· != ':')
  | _ => false

/-- A bracketed set behind its opening bracket: whether it is inverted, its ranges, and what
follows. -/
def bracketSet (t : Bytes) : Except RegexFault (Bool × List (Char × Char) × Bytes) := do
  let (inverted, t) := match t with
    | '^' :: rest => (true, rest)
    | t => (false, t)
  if t.isEmpty then throw .badPattern
  let (ranges, rest) ← bracketed true (t.length + 1) t
  if isBareClass t then throw .bareClass
  return (inverted, ranges, rest)

/-- The set of some ranges in a style. Where anchors match at lines, an inverted set has no line
breaks. -/
def setOf (style : RegexStyle) (inverted : Bool) (ranges : List (Char × Char)) : Regex :=
  let ranges := if inverted && style.multiline then ('\n', '\n') :: ranges else ranges
  .set ⟨inverted, if style.fold then ByteSet.foldCase ranges else ranges⟩

def mostRepeats : Nat := 32767

/-- What ends a number in the bounds of a repetition. -/
inductive BoundEnd where
  | comma
  | brace
  | nothing
deriving DecidableEq, Repr, Inhabited

def afterBrace? (style : RegexStyle) : Bytes → Option Bytes
  | '\x7d' :: rest => if style.extended then some rest else none
  | '\\' :: '\x7d' :: rest => if style.extended then none else some rest
  | _ => none

/-- A number in the bounds of a repetition, if it is one and if there is one, what ends it, and
what follows. -/
def bound (style : RegexStyle) (isNumber : Bool) (n : Option Nat) :
    Bytes → Bool × Option Nat × BoundEnd × Bytes
  | [] => (false, n, .nothing, [])
  | c :: rest =>
    match afterBrace? style (c :: rest) with
    | some after => (isNumber, n, .brace, after)
    | none =>
      if c = ',' then (isNumber, n, .comma, rest)
      else if c.isDigit then
        bound style isNumber
          (some (min (mostRepeats + 1) (n.getD 0 * 10 + (c.toNat - '0'.toNat)))) rest
      else bound style false n rest

/-- The bounds of a repetition behind its opening brace, and what follows the closing one; nothing
if the brace is no sign after all. -/
def bounds (style : RegexStyle) (t : Bytes) :
    Except RegexFault (Option (Nat × Option Nat × Bytes)) :=
  let invalid := fun (e : BoundEnd) =>
    if style.lenient && style.extended then .ok none
    else .error (if e = .nothing then .unmatchedBrace else .badBounds)
  match bound style true none t with
  | (true, none, .brace, _) => .error .badBounds
  | (true, some n, .brace, rest) =>
    if mostRepeats < n then .error .tooBig else .ok (some (n, some n, rest))
  | (true, low, .comma, rest) =>
    match bound style true none rest with
    | (true, high, .brace, rest) =>
      let least := low.getD 0
      if high.any (· < least) then .error .badBounds
      else if mostRepeats < high.getD least then .error .tooBig
      else .ok (some (least, high, rest))
    | (true, _, .comma, _) => .error .badBounds
    | (_, _, e, _) => invalid e
  | (_, _, e, _) => invalid e

/-- Whether a dollar sign before some bytes is an anchor in the plain style. -/
def endsHere : Bytes → Bool
  | [] => true
  | '\\' :: ')' :: _ => true
  | '\\' :: '|' :: _ => true
  | _ => false

/-- What is read of an expression: how many groups there are, which of them are closed, the signs
with nothing to repeat, and what is left. -/
structure Reading where
  groups : Nat := 0
  closed : List Nat := []
  warnings : List Char := []
  rest : Bytes

/-- An expression with all repetition signs that follow it. In the plain style a star or bounds
must not follow another sign unless that is let pass. -/
def repetitions (style : RegexStyle) (again : Bool) (r : Regex) : (fuel : Nat) → Bytes →
    Except RegexFault (Regex × Bytes)
  | 0, t => .ok (r, t)
  | fuel + 1, t => do
    let strict := again && ! style.extended && ! style.lenient
    match ← sign style t with
    | some (.star, rest) =>
      if strict then throw .nothingToRepeat
      repetitions style true (.rep r 0 none) fuel rest
    | some (.plus, rest) => repetitions style true (.rep r 1 none) fuel rest
    | some (.question, rest) => repetitions style true (.rep r 0 (some 1)) fuel rest
    | some (.brace, rest) =>
      if strict then throw .nothingToRepeat
      match ← bounds style rest with
      | some (least, most, rest) => repetitions style true (.rep r least most) fuel rest
      | none => return (r, t)
    | _ => return (r, t)

mutual

/-- Reads choices up to the end or to a closing sign that belongs to an open group. -/
def choices (style : RegexStyle) (depth : Nat) : (fuel : Nat) → Reading →
    Except RegexFault (Regex × Reading)
  | 0, t => .ok (.empty, t)
  | fuel + 1, t => do
    let (first, t) ← sequence style depth true .empty fuel t
    match ← sign style t.rest with
    | some (.bar, rest) =>
      let (others, t) ← choices style depth fuel { t with rest }
      return (.alt first others, t)
    | _ => return (first, t)

/-- Reads expressions that stand one after another, onto those `before`. At the front and behind
an anchor there is nothing to repeat. -/
def sequence (style : RegexStyle) (depth : Nat) (atFront : Bool) (before : Regex) : (fuel : Nat) →
    Reading → Except RegexFault (Regex × Reading)
  | 0, t => .ok (before, t)
  | fuel + 1, t => do
    let goOn := fun (atFront : Bool) (r : Regex) (t : Reading) =>
      sequence style depth atFront (if before = .empty then r else .cat before r) fuel t
    let single := fun (r : Regex) (t : Reading) => do
      let (r, rest) ← repetitions style false r (t.rest.length + 1) t.rest
      goOn false r { t with rest }
    let literal := fun (c : Char) (rest : Bytes) =>
      single (setOf style false [(c, c)]) { t with rest }
    let repeating := fun (c : Char) (rest after : Bytes) =>
      if ! style.extended then literal c rest
      else if style.lenient then
        sequence style depth true before fuel { t with rest := after, warnings := c :: t.warnings }
      else throw .nothingToRepeat
    match ← sign style t.rest with
    | none => return (before, t)
    | some (.bar, _) => return (before, t)
    | some (.closing, rest) =>
      if 0 < depth then return (before, t)
      else if style.extended && style.lenient then literal ')' rest
      else throw .unmatchedClose
    | some (.opening, rest) =>
      let n := t.groups + 1
      let (inner, t) ← choices style (depth + 1) fuel { t with groups := n, rest }
      match ← sign style t.rest with
      | some (.closing, rest) => single (.group n inner) { t with closed := n :: t.closed, rest }
      | _ => throw .unmatchedOpen
    | some (.star, rest) =>
      if atFront then repeating '*' rest rest else literal '*' rest
    | some (.plus, rest) => repeating '+' rest rest
    | some (.question, rest) => repeating '?' rest rest
    | some (.brace, rest) =>
      if style.lenient then
        if style.extended && style.dropsBraces then
          sequence style depth true before fuel { t with rest }
        else if style.extended then
          match ← bounds style rest with
          | some (_, _, after) => repeating '\x7b' rest after
          | none => literal '\x7b' rest
        else literal '\x7b' rest
      else throw .nothingToRepeat
    | some (.caret, rest) =>
      if style.extended || (atFront && (! style.lenient || before = .empty)) then
        goOn true (.anchor (if style.multiline then .lineStart else .start)) { t with rest }
      else literal '^' rest
    | some (.dollar, rest) =>
      if style.extended || endsHere rest then
        goOn true (.anchor (if style.multiline then .lineEnd else .finish)) { t with rest }
      else literal '$' rest
    | some (.any, rest) => single (setOf style true []) { t with rest }
    | some (.bracket, rest) =>
      let (inverted, ranges, rest) ← bracketSet rest
      single (setOf style inverted ranges) { t with rest }
    | some (.anchor a, rest) => goOn true (.anchor a) { t with rest }
    | some (.set s, rest) => single (.set s) { t with rest }
    | some (.back n, rest) =>
      if t.closed.contains n then single (.back n style.fold) { t with rest }
      else throw .badReference
    | some (.byte c, rest) => literal c rest

end

/-- Reads an expression. What is returned tells how many groups it has, and which signs had
nothing to repeat. -/
def read (style : RegexStyle) (t : Bytes) : Except RegexFault (Regex × Reading) := do
  let (r, t) ← choices style 0 (2 * t.length + 2) { rest := t }
  if t.rest.isEmpty then return (r, t) else throw .unmatchedClose

/-- Reads an expression, and tells how many groups it has. -/
def parse (style : RegexStyle) (t : Bytes) : Except RegexFault (Regex × Nat) := do
  let (r, t) ← read style t
  return (r, t.groups)

end Regex

end AmbientDecls.Toolbox
