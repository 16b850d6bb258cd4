import AmbientDecls.Toolbox.Shell.Calculation
import AmbientDecls.Toolbox.Shell.Pattern

/-!
# Conditions

What `test` tells: whether texts, numbers and files are as they are asked to be. Words are read from
the left, and what they mean may depend on how many there are.
-/

namespace AmbientDecls.Toolbox.Shell

inductive TestWord where
  | finish
  | operand
  | bang
  | andAlso
  | orElse
  | opening
  | closing
  | unary
  | binary
deriving DecidableEq, Repr, Inhabited

namespace Condition

/-- The operators on one operand. -/
def unaryNames : List String :=
  ["-r", "-w", "-x", "-e", "-f", "-d", "-c", "-b", "-p", "-u", "-g", "-k", "-s", "-t", "-z", "-n",
    "-h", "-O", "-G", "-L", "-S"]

/-- The operators on two operands. -/
def binaryNames : List String :=
  ["=", "!=", "<", ">", "-eq", "-ne", "-ge", "-gt", "-le", "-lt", "-nt", "-ot", "-ef"]

def operator? (w : Bytes) : Option TestWord :=
  let s := String.ofList w
  if unaryNames.contains s then some .unary
  else if binaryNames.contains s then some .binary
  else match s with
    | "!" => some .bang
    | "-a" => some .andAlso
    | "-o" => some .orElse
    | "(" => some .opening
    | ")" => some .closing
    | _ => none

/-- What the first of some words is. An operator that cannot be one there is an operand. -/
def kind : List Bytes → TestWord
  | [] => .finish
  | w :: rest =>
    let isOperand : Bool := match rest with
      | [] => true
      | [_] => false
      | next :: _ => operator? next == some .binary
    match operator? w with
    | none => .operand
    | some .unary => if isOperand then .operand else .unary
    | some .opening => if rest.isEmpty then .operand else .opening
    | some k => k

def numberOf (w : Bytes) : Except Bytes Int :=
  let t := w.dropWhile isSpace
  let (negative, t) := match t with
    | '-' :: rest => (true, rest)
    | '+' :: rest => (false, rest)
    | t => (false, t)
  let (n, rest) := digits decimal? 10 0 t.length t
  if rest.length < t.length && rest.all isSpace then .ok (if negative then -(n : Int) else n)
  else .error ("Illegal number: ".toList ++ w)

def ofOne (fs : FileSystem) (operator w : Bytes) : Except Bytes Bool :=
  let path := Bytes.toText w
  match String.ofList operator with
  | "-z" => .ok w.isEmpty
  | "-n" => .ok (! w.isEmpty)
  | "-t" => do
    let _ ← numberOf w
    return false
  | "-f" => .ok (fs.isFile path)
  | "-d" => .ok (fs.isDirectory path)
  | "-e" | "-r" | "-w" | "-O" | "-G" => .ok (fs.pathExists path)
  | "-x" => .ok (fs.isDirectory path || (fs.pathExists path && ! fs.isFile path))
  | "-c" => .ok (fs.pathExists path && ! fs.isFile path && ! fs.isDirectory path)
  | "-s" =>
    match fs.read path with
    | .ok content => .ok (! content.isEmpty)
    | .error e => .ok (e == .isADirectory)
  | _ => .ok false

/-- What an operator tells of two texts, numbers or files. -/
def ofTwo (fs : FileSystem) (a operator b : Bytes) : Except Bytes Bool := do
  let compared := fun (f : Int → Int → Bool) => do return f (← numberOf a) (← numberOf b)
  match String.ofList operator with
  | "=" => return a == b
  | "!=" => return a != b
  | "<" => return comesBefore a b
  | ">" => return comesBefore b a
  | "-eq" => compared fun m n => m == n
  | "-ne" => compared fun m n => m != n
  | "-ge" => compared fun m n => n ≤ m
  | "-gt" => compared fun m n => n < m
  | "-le" => compared fun m n => m ≤ n
  | "-lt" => compared fun m n => m < n
  | "-ef" =>
    match fs.find (Bytes.toText a), fs.find (Bytes.toText b) with
    | .ok (p, _), .ok (q, _) => return p == q
    | _, _ => return false
  | "-nt" => return fs.pathExists (Bytes.toText a) && ! fs.pathExists (Bytes.toText b)
  | _ => return fs.pathExists (Bytes.toText b) && ! fs.pathExists (Bytes.toText a)

/-- The complaint that a word is not followed by what it needs. -/
def lacking (operator : Bytes) : Bytes := operator ++ ": argument expected".toList

mutual

/-- Reads a condition that a bang may stand before. What is left starts with the last word read. -/
def negation (fs : FileSystem) (k : TestWord) : (fuel : Nat) → List Bytes →
    Except Bytes (Bool × List Bytes)
  | 0, t => .ok (false, t)
  | fuel + 1, t => do
    if k = .bang then
      let k := kind (t.drop 1)
      let (result, t) ← negation fs k fuel (if k = .finish then t else t.drop 1)
      return (! result, t)
    else primary fs k fuel t

/-- Reads a condition without a bang. -/
def primary (fs : FileSystem) (k : TestWord) : (fuel : Nat) → List Bytes →
    Except Bytes (Bool × List Bytes)
  | 0, t => .ok (false, t)
  | fuel + 1, t => do
    match k, t with
    | .finish, t => return (false, t)
    | _, [] => return (false, [])
    | .opening, _ :: rest =>
      let k := kind rest
      if k = .closing then return (false, rest)
      let (result, t) ← disjunction fs k fuel rest
      let t := t.drop 1
      if kind t = .closing then return (result, t) else throw "closing paren expected".toList
    | .unary, operator :: rest =>
      match rest with
      | [] => throw (lacking operator)
      | w :: _ => return (← ofOne fs operator w, rest)
    | _, a :: rest =>
      match kind rest, rest with
      | .binary, [operator] => throw (lacking operator)
      | .binary, operator :: b :: after => return (← ofTwo fs a operator b, b :: after)
      | _, _ => return (! a.isEmpty, t)

/-- Reads conditions that all have to hold. -/
def conjunction (fs : FileSystem) (k : TestWord) : (fuel : Nat) → List Bytes →
    Except Bytes (Bool × List Bytes)
  | 0, t => .ok (false, t)
  | fuel + 1, t => do
    let (a, t) ← negation fs k fuel t
    if kind (t.drop 1) = .andAlso then
      let (b, t) ← conjunction fs (kind (t.drop 2)) fuel (t.drop 2)
      return (a && b, t)
    else return (a, t)

/-- Reads conditions of which one has to hold. -/
def disjunction (fs : FileSystem) (k : TestWord) : (fuel : Nat) → List Bytes →
    Except Bytes (Bool × List Bytes)
  | 0, t => .ok (false, t)
  | fuel + 1, t => do
    let (a, t) ← conjunction fs k fuel t
    if kind (t.drop 1) = .orElse then
      let (b, t) ← disjunction fs (kind (t.drop 2)) fuel (t.drop 2)
      return (a || b, t)
    else return (a, t)

end

/-- Whether words are a condition that holds, from a kind of first word on. -/
def whole (fs : FileSystem) (k : TestWord) (t : List Bytes) : Except Bytes Bool := do
  let (result, left) ← disjunction fs k (4 * t.length + 4) t
  match left with
  | w :: _ :: _ => throw (w ++ ": unexpected operator".toList)
  | _ => return result

def holds (fs : FileSystem) : List Bytes → Except Bytes Bool
  | [] => .ok false
  | [a, operator, b] =>
    if operator? operator = some .binary then whole fs .operand [a, operator, b]
    else if a = ['('] && b = [')'] then whole fs (kind [operator]) [operator]
    else if a = ['!'] then return ! (← whole fs (kind [operator, b]) [operator, b])
    else whole fs (kind [a, operator, b]) [a, operator, b]
  | [a, b, c, d] =>
    if a = ['('] && d = [')'] then whole fs (kind [b, c]) [b, c]
    else if a = ['!'] then return ! (← holds fs [b, c, d])
    else whole fs (kind [a, b, c, d]) [a, b, c, d]
  | t => whole fs (kind t) t

end Condition

end AmbientDecls.Toolbox.Shell
