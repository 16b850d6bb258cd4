import AmbientDecls.Toolbox.Class

/-!
# Calculations

Expressions over whole numbers of 64 bits. Names stand for the values of variables, which may be
assigned on the way.
-/

namespace AmbientDecls.Toolbox.Shell

inductive Operation where
  | mul
  | div
  | rem
  | add
  | sub
  | left
  | right
  | less
  | atMost
  | more
  | atLeast
  | equal
  | unequal
  | both
  | either
  | oneOf
deriving DecidableEq, Repr, Inhabited

/-- How tightly an operation binds; the least binds most. -/
def Operation.rank : Operation → Nat
  | mul | div | rem => 0
  | add | sub => 1
  | left | right => 2
  | less | atMost | more | atLeast => 3
  | equal | unequal => 4
  | both => 5
  | oneOf => 6
  | either => 7

/-- An expression. -/
inductive Formula where
  | number (n : Int)
  | named (name : Bytes)
  | negative (a : Formula)
  | inverse (a : Formula)
  | complement (a : Formula)
  | operation (o : Operation) (a b : Formula)
  | andAlso (a b : Formula)
  | orElse (a b : Formula)
  | condition (a b c : Formula)
  | assign (name : Bytes) (o : Option Operation) (a : Formula)
deriving Repr, Inhabited

/-- What an expression is written with. -/
inductive Lexeme where
  | number (n : Int)
  | name (b : Bytes)
  | operation (o : Operation)
  /-- An assignment, perhaps of the result of an operation. -/
  | assignment (o : Option Operation)
  | andAlso
  | orElse
  | bang
  | tilde
  | question
  | colon
  | opening
  | closing
  | unknown
deriving DecidableEq, Repr, Inhabited

/-- How many numbers 64 bits tell apart. -/
def modulus : Int := 18446744073709551616

def wrapped (n : Int) : Int := (n + 9223372036854775808) % modulus - 9223372036854775808

def greatest : Nat := 9223372036854775807

/-- A number written in digits of its base, and what follows. -/
def literalNumber (t : Bytes) : Nat × Bytes :=
  match t with
  | '0' :: x :: c :: rest =>
    if (x = 'x' || x = 'X') && (hexadecimal? c).isSome then
      digits hexadecimal? 16 0 (rest.length + 1) (c :: rest)
    else digits octal? 8 0 t.length t
  | '0' :: _ => digits octal? 8 0 t.length t
  | _ => digits decimal? 10 0 t.length t

/-- The lexeme of a sign that assigns if an equals sign follows. -/
def assigning (o : Operation) (rest : Bytes) : Lexeme × Bytes :=
  match rest with
  | '=' :: rest => (.assignment (some o), rest)
  | rest => (.operation o, rest)

/-- The lexeme that bytes start with, and what follows. -/
def lexeme (c : Char) (rest : Bytes) : Lexeme × Bytes :=
  if c.isDigit then
    let (n, rest) := literalNumber (c :: rest)
    (.number (min n greatest), rest)
  else if isNameChar c then
    let name := rest.takeWhile isNameChar
    (.name (c :: name), rest.drop name.length)
  else match c, rest with
    | '=', '=' :: rest => (.operation .equal, rest)
    | '=', rest => (.assignment none, rest)
    | '>', '=' :: rest => (.operation .atLeast, rest)
    | '>', '>' :: rest => assigning .right rest
    | '>', rest => (.operation .more, rest)
    | '<', '=' :: rest => (.operation .atMost, rest)
    | '<', '<' :: rest => assigning .left rest
    | '<', rest => (.operation .less, rest)
    | '|', '|' :: rest => (.orElse, rest)
    | '|', rest => assigning .either rest
    | '&', '&' :: rest => (.andAlso, rest)
    | '&', rest => assigning .both rest
    | '!', '=' :: rest => (.operation .unequal, rest)
    | '!', rest => (.bang, rest)
    | '*', rest => assigning .mul rest
    | '/', rest => assigning .div rest
    | '%', rest => assigning .rem rest
    | '+', rest => assigning .add rest
    | '-', rest => assigning .sub rest
    | '^', rest => assigning .oneOf rest
    | '~', rest => (.tilde, rest)
    | '?', rest => (.question, rest)
    | ':', rest => (.colon, rest)
    | '(', rest => (.opening, rest)
    | ')', rest => (.closing, rest)
    | _, rest => (.unknown, rest)

def lexemes : (fuel : Nat) → Bytes → List Lexeme
  | 0, _ => []
  | _, [] => []
  | fuel + 1, c :: rest =>
    if isSpace c then lexemes fuel rest
    else
      let (l, rest) := lexeme c rest
      l :: lexemes fuel rest

namespace Formula

mutual

/-- Reads what operations are on. -/
def primary : (fuel : Nat) → List Lexeme → Except String (Formula × List Lexeme)
  | 0, _ => .error "expecting primary"
  | fuel + 1, t => do
    match t with
    | .opening :: rest =>
      let (a, rest) ← assignment fuel rest
      match rest with
      | .closing :: rest => return (a, rest)
      | _ => throw "expecting ')'"
    | .number n :: rest => return (.number n, rest)
    | .name b :: rest => return (.named b, rest)
    | .operation .add :: rest => primary fuel rest
    | .operation .sub :: rest => return (← primary fuel rest).map .negative id
    | .bang :: rest => return (← primary fuel rest).map .inverse id
    | .tilde :: rest => return (← primary fuel rest).map .complement id
    | _ => throw "expecting primary"

/-- Reads the operations that follow one on `a` and bind more tightly than `rank`. -/
def operations (rank : Nat) (a : Formula) : (fuel : Nat) → List Lexeme →
    Except String (Formula × List Lexeme)
  | 0, t => .ok (a, t)
  | fuel + 1, t => do
    match t with
    | .operation o :: rest =>
      if rank < o.rank + 1 then return (a, t)
      let (b, rest) ← primary fuel rest
      let (b, rest) ← operations o.rank b fuel rest
      operations rank (.operation o a b) fuel rest
    | _ => return (a, t)

def operationList (fuel : Nat) (t : List Lexeme) : Except String (Formula × List Lexeme) :=
  match fuel with
  | 0 => .error "expecting primary"
  | fuel + 1 => do
    let (a, rest) ← primary fuel t
    operations 8 a fuel rest

/-- Reads what has to hold as well. -/
def conjunction : (fuel : Nat) → List Lexeme → Except String (Formula × List Lexeme)
  | 0, _ => .error "expecting primary"
  | fuel + 1, t => do
    let (a, rest) ← operationList fuel t
    match rest with
    | .andAlso :: rest => return (← conjunction fuel rest).map (.andAlso a) id
    | rest => return (a, rest)

/-- Reads what may hold instead. -/
def disjunction : (fuel : Nat) → List Lexeme → Except String (Formula × List Lexeme)
  | 0, _ => .error "expecting primary"
  | fuel + 1, t => do
    let (a, rest) ← conjunction fuel t
    match rest with
    | .orElse :: rest => return (← disjunction fuel rest).map (.orElse a) id
    | rest => return (a, rest)

/-- Reads a choice by a condition. -/
def conditional : (fuel : Nat) → List Lexeme → Except String (Formula × List Lexeme)
  | 0, _ => .error "expecting primary"
  | fuel + 1, t => do
    let (a, rest) ← disjunction fuel t
    match rest with
    | .question :: rest =>
      let (b, rest) ← assignment fuel rest
      match rest with
      | .colon :: rest => return (← conditional fuel rest).map (.condition a b) id
      | _ => throw "expecting ':'"
    | rest => return (a, rest)

/-- Reads an assignment, or an expression without one. -/
def assignment : (fuel : Nat) → List Lexeme → Except String (Formula × List Lexeme)
  | 0, _ => .error "expecting primary"
  | fuel + 1, t => do
    match t with
    | .name b :: .assignment o :: rest => return (← assignment fuel rest).map (.assign b o) id
    | t => conditional fuel t

end

/-- Reads an expression. -/
def parse (t : Bytes) : Except String Formula := do
  let all := lexemes (t.length + 1) t
  let (a, rest) ← assignment (8 * all.length + 8) all
  if rest.isEmpty then return a else throw "expecting EOF"

end Formula

/-- What keeps a calculation from a result. -/
inductive Miscalculation where
  /-- The expression is not right. -/
  | expression (message : String)
  /-- The value of a variable is no number. -/
  | illegal (value : Bytes)
deriving DecidableEq, Repr, Inhabited

/-- The number that a value is, with its sign and blanks around it. -/
def wholeNumber? (value : Bytes) : Option Int :=
  let t := value.dropWhile isSpace
  let (negative, t) := match t with
    | '-' :: rest => (true, rest)
    | '+' :: rest => (false, rest)
    | t => (false, t)
  if ! (t.head?.any Char.isDigit) then none
  else
    let (n, rest) := literalNumber t
    if rest.all isSpace then some (if negative then -(min n (greatest + 1)) else min n greatest)
    else none

/-- The result of an operation; nothing if it divides by zero. -/
def Operation.apply (o : Operation) (a b : Int) : Option Int :=
  let truth := fun (p : Bool) => some (if p then 1 else 0)
  let bits := fun (f : Nat → Nat → Nat) =>
    some (wrapped (f (a % modulus).toNat (b % modulus).toNat))
  let places := (b % 64).toNat
  match o with
  | mul => some (wrapped (a * b))
  | div => if b = 0 then none else some (wrapped (a.tdiv b))
  | rem => if b = 0 then none else some (wrapped (a.tmod b))
  | add => some (wrapped (a + b))
  | sub => some (wrapped (a - b))
  | left => some (wrapped (a * Nat.pow 2 places))
  | right => some (a / Nat.pow 2 places)
  | less => truth (a < b)
  | atMost => truth (a ≤ b)
  | more => truth (b < a)
  | atLeast => truth (b ≤ a)
  | equal => truth (a = b)
  | unequal => truth (a ≠ b)
  | both => bits Nat.land
  | either => bits Nat.lor
  | oneOf => bits Nat.xor

/-- A calculation: what has been assigned so far, the latest first, is known to what follows. -/
abbrev Calculation := StateT (List (Bytes × Int)) (Except Miscalculation)

def valueOf (lookup : Bytes → Option Bytes) (name : Bytes) : Calculation Int := do
  match (← get).lookup name with
  | some n => return n
  | none =>
    match lookup name with
    | none | some [] => return 0
    | some value =>
      match wholeNumber? value with
      | some n => return n
      | none => throw (.illegal value)

def operated (o : Operation) (a b : Int) : Calculation Int :=
  match o.apply a b with
  | some n => return n
  | none => throw (.expression "division by zero")

def Formula.value (lookup : Bytes → Option Bytes) : Formula → Calculation Int
  | number n => return n
  | named name => valueOf lookup name
  | negative a => return wrapped (-(← a.value lookup))
  | inverse a => return if (← a.value lookup) = 0 then 1 else 0
  | complement a => return -(← a.value lookup) - 1
  | operation o a b => do operated o (← a.value lookup) (← b.value lookup)
  | andAlso a b => do
    if (← a.value lookup) = 0 then return 0
    return if (← b.value lookup) = 0 then 0 else 1
  | orElse a b => do
    if (← a.value lookup) ≠ 0 then return 1
    return if (← b.value lookup) = 0 then 0 else 1
  | condition a b c => do
    if (← a.value lookup) ≠ 0 then b.value lookup else c.value lookup
  | assign name o a => do
    let n ← a.value lookup
    let n ← match o with
      | none => pure n
      | some o => do operated o (← valueOf lookup name) n
    modify ((name, n) :: ·)
    return n

/-- The value of an expression and what it assigns, in order. -/
def calculate (lookup : Bytes → Option Bytes) (t : Bytes) :
    Except Miscalculation (Int × List (Bytes × Int)) := do
  let f ← (Formula.parse t).mapError .expression
  let (n, assigned) ← (f.value lookup).run []
  return (n, assigned.reverse)

end AmbientDecls.Toolbox.Shell
