import AmbientDecls.Toolbox.Class

/-!
# Commands of the shell

A script is a sequence of commands. Simple commands are made of words, and words of pieces, some of
which stand for what is only known when the command is run: the values of parameters, the output of
other commands, and the results of calculations.
-/

namespace AmbientDecls.Toolbox.Shell

/-- What is made of the value of a parameter. With `orEmpty` a parameter that is empty counts as one
that is not set. -/
inductive Change where
  | keep
  | length
  /-- A word instead of no value. -/
  | default (orEmpty : Bool)
  /-- A word instead of no value, which becomes the value. -/
  | assign (orEmpty : Bool)
  /-- A fault, with a word as its message, instead of no value. -/
  | demand (orEmpty : Bool)
  /-- A word instead of any value. -/
  | replace (orEmpty : Bool)
  /-- The value without what a pattern matches at its front. -/
  | trimFront (longest : Bool)
  /-- The value without what a pattern matches at its end. -/
  | trimBack (longest : Bool)
  | invalid
deriving DecidableEq, Repr, Inhabited

/-- How a redirection opens its target. -/
inductive Opening where
  | read
  | write
  /-- To write even where files are kept from being overwritten. -/
  | overwrite
  | append
  | readWrite
  /-- The target is another descriptor. -/
  | duplicate
  /-- The target is the text itself. -/
  | document
deriving DecidableEq, Repr, Inhabited

/-- How two commands are joined. -/
inductive Joint where
  | after
  | ifSuccessful
  | ifFailed
deriving DecidableEq, Repr, Inhabited

mutual

/-- A piece of a word; what is quoted is not split into fields and is no pattern. -/
inductive Piece where
  | text (quoted : Bool) (bytes : Bytes)
  | parameter (quoted : Bool) (name : Bytes) (change : Change) (word : List Piece)
  | output (quoted : Bool) (script : Command)
  | calculation (quoted : Bool) (word : List Piece)

inductive Redirect where
  | mk (descriptor : Nat) (opening : Opening) (target : List Piece)

inductive Branch where
  | mk (patterns : List (List Piece)) (body : Command)

/-- A command. Those that complain know the line that they stand on. -/
inductive Command where
  | nothing
  | simple (line : Nat) (assignments : List (Bytes × List Piece)) (words : List (List Piece))
      (redirects : List Redirect)
  | pipeline (stages : List Command)
  | negated (c : Command)
  | joined (first : Command) (joint : Joint) (second : Command)
  | background (c : Command)
  | subshell (line : Nat) (c : Command) (redirects : List Redirect)
  | redirected (line : Nat) (c : Command) (redirects : List Redirect)
  | choice (condition success failure : Command)
  /-- A loop as long as a condition succeeds, or with `inverted` as long as it fails. -/
  | loop (inverted : Bool) (condition body : Command)
  | each (line : Nat) (name : Bytes) (words : List (List Piece)) (body : Command)
  | select (line : Nat) (word : List Piece) (branches : List Branch)
  | function (name : Bytes) (body : Command)

end

instance : Inhabited Piece := ⟨.text false []⟩

instance : Inhabited Command := ⟨.nothing⟩

instance : Inhabited Redirect := ⟨.mk 0 .read []⟩

abbrev Word := List Piece

namespace Piece

def isQuoted : Piece → Bool
  | text quoted _ | parameter quoted .. | output quoted _ | calculation quoted _ => quoted

end Piece

namespace Word

def isQuoted (w : Word) : Bool := w.any (·.isQuoted)

/-- The bytes of a word that needs nothing to be known. -/
def literal? : Word → Option Bytes
  | [] => some []
  | .text _ b :: rest => (literal? rest).map (b ++ ·)
  | _ :: _ => none

def bare? (w : Word) : Option Bytes := if isQuoted w then none else literal? w

end Word

/-- The names of the commands that a script cannot go on without. -/
def specialNames : List Bytes :=
  [".", ":", "break", "continue", "eval", "exec", "exit", "export", "local", "readonly", "return",
    "set", "shift", "times", "trap", "unset"].map String.toList

/-- Whether bytes are a name: they do not start with a digit. -/
def isName (b : Bytes) : Bool :=
  ! b.isEmpty && b.all isNameChar && ! (b.head?.any Char.isDigit)

/-- The name that a word assigns to and the rest of it, if it is an assignment. -/
def assignment? : Word → Option (Bytes × Word)
  | .text false b :: rest =>
    let name := b.takeWhile (· != '=')
    match b.drop name.length with
    | [] => none
    | _ :: value =>
      if isName name then
        some (name, if value.isEmpty then rest else .text false value :: rest)
      else none
  | _ => none

end AmbientDecls.Toolbox.Shell
