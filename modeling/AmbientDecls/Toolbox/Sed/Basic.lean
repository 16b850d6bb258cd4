import AmbientDecls.Toolbox.Regex.Basic

/-!
# Scripts of the stream editor

A script is a list of commands, each perhaps bound to lines by addresses. Blocks and labels are
places that commands jump to.
-/

namespace AmbientDecls.Toolbox.Sed

/-- Where a command applies. A pattern that is not given is the one that was used last. -/
inductive Address where
  | line (n : Nat)
  | every (first step : Nat)
  | last
  | pattern (r : Option Regex)
  /-- So many lines after the first address. -/
  | more (n : Nat)
  /-- Up to the next line whose number is a multiple. -/
  | multiple (n : Nat)
deriving DecidableEq, Repr, Inhabited

/-- The case that replaced letters get. -/
inductive Casing where
  | same
  | upper
  | lower
deriving DecidableEq, Repr, Inhabited

/-- A piece of a replacement: some text and perhaps what a group matched, in a case; the first
letter may have its own. -/
structure Piece where
  text : Bytes := []
  group : Option Nat := none
  casing : Casing := .same
  first : Casing := .same
deriving DecidableEq, Repr, Inhabited

/-- A replacement of matches in a line. -/
structure Substitution where
  pattern : Option Regex
  pieces : List Piece
  /-- The number of the first match that is replaced. -/
  nth : Nat := 1
  everywhere : Bool := false
  print : Bool := false
  /-- Whether the result is run as a script and what that writes put in its place. -/
  evaluate : Bool := false
  /-- Whether the result is printed before it is run. -/
  printsFirst : Bool := false
  target : Option Bytes := none
deriving DecidableEq, Repr, Inhabited

inductive Jump where
  | always
  | ifReplaced
  | ifNotReplaced
deriving DecidableEq, Repr, Inhabited

/-- What a command does. Places are numbers of commands. -/
inductive Action where
  /-- Skips to the place behind a block where the command does not apply. -/
  | block (behind : Nat)
  | nothing
  | jump (condition : Jump) (place : Nat)
  | append (text : Bytes)
  | insert (text : Bytes)
  | change (text : Bytes)
  | delete
  | deleteFirst
  | print
  | printFirst
  | next
  | nextAppended
  | quit (status : Nat)
  | quitSilently (status : Nat)
  | readFile (path : Bytes)
  | readLine (path : Bytes)
  | writeFile (path : Bytes)
  | writeFirst (path : Bytes)
  | substitute (s : Substitution)
  | translate (pairs : List (Char × Char))
  | list (width : Option Nat)
  | number
  | name
  | zap
  | get
  | getAppended
  | hold
  | holdAppended
  | exchange
  /-- Writes what a script writes. -/
  | run (script : Bytes)
  /-- Runs the pattern space as a script and puts what that writes in its place. -/
  | evaluate
deriving DecidableEq, Repr, Inhabited

structure Command where
  first : Option Address := none
  last : Option Address := none
  inverted : Bool := false
  action : Action
deriving DecidableEq, Repr, Inhabited

/-- A script with its files to be written, and whether it asks for no output of its own. -/
structure Script where
  commands : Array Command := #[]
  quiet : Bool := false
deriving Repr, Inhabited

end AmbientDecls.Toolbox.Sed
