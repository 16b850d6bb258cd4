import AmbientDecls.Toolbox.Shell.Syntax

/-!
# Tokens of the shell

What scripts are read into before commands are made of it, the state of reading, and the faults
that reading ends in. A backslash before a line break joins two lines.
-/

namespace AmbientDecls.Toolbox.Shell

/-- A word that has a meaning where a command may start. -/
inductive Keyword where
  | bang
  | caseOf
  | doing
  | done
  | elseIf
  | otherwise
  | esac
  | fi
  | forEach
  | ifSo
  | within
  | thenDo
  | untilSo
  | whileSo
  | opening
  | closing
deriving DecidableEq, Repr, Inhabited

namespace Keyword

def spelling : Keyword → String
  | bang => "!"
  | caseOf => "case"
  | doing => "do"
  | done => "done"
  | elseIf => "elif"
  | otherwise => "else"
  | esac => "esac"
  | fi => "fi"
  | forEach => "for"
  | ifSo => "if"
  | within => "in"
  | thenDo => "then"
  | untilSo => "until"
  | whileSo => "while"
  | opening => "\x7b"
  | closing => "\x7d"

def all : List Keyword :=
  [bang, caseOf, doing, done, elseIf, otherwise, esac, fi, forEach, ifSo, within, thenDo, untilSo,
    whileSo, opening, closing]

def ofBytes? (b : Bytes) : Option Keyword := all.find? fun k => k.spelling.toList == b

/-- Whether a keyword ends the commands before it. -/
def isEnd : Keyword → Bool
  | doing | done | elseIf | otherwise | esac | fi | thenDo | closing => true
  | _ => false

end Keyword

inductive Token where
  | finish
  | newline
  /-- With `stripped` the tabs at the front of a document's lines go. -/
  | redirect (descriptor : Nat) (opening : Opening) (stripped : Bool)
  | word (w : Word)
  | semicolon
  | ampersand
  | andAlso
  | orElse
  | bar
  | openParen
  | closeParen
  | endBranch
  | keyword (k : Keyword)

instance : Inhabited Token := ⟨.finish⟩

namespace Token

def name : Token → String
  | finish => "end of file"
  | newline => "newline"
  | redirect .. => "redirection"
  | word _ => "word"
  | semicolon => "\";\""
  | ampersand => "\"&\""
  | andAlso => "\"&&\""
  | orElse => "\"||\""
  | bar => "\"|\""
  | openParen => "\"(\""
  | closeParen => "\")\""
  | endBranch => "\";;\""
  | keyword k => "\"" ++ k.spelling ++ "\""

/-- Whether a token ends the commands before it. -/
def isEnd : Token → Bool
  | finish | closeParen | endBranch => true
  | keyword k => k.isEnd
  | _ => false

def isKeyword (t : Token) (k : Keyword) : Bool :=
  match t with
  | keyword l => l == k
  | _ => false

def toWord : Token → Word
  | word w => w
  | keyword k => [.text false k.spelling.toList]
  | _ => []

end Token

/-- What is wrong with a script, and the line that it was found on. -/
structure Fault where
  message : Bytes
  line : Nat
deriving DecidableEq, Repr, Inhabited

/-- What is left of a script. -/
structure Input where
  rest : Bytes
  line : Nat := 1
  /-- How many lines have been taken out behind this one. -/
  taken : Nat := 0
  /-- A token that was read ahead. -/
  held : Option Token := none
  /-- The words that stand for other text where a command begins. -/
  aliases : List (Bytes × Bytes) := []
  /-- Those whose text is being read, with how much is left behind it. -/
  replacing : List (Bytes × Nat) := []

abbrev Reader := StateT Input (Except Fault)

namespace Reader

def fail {α : Type} (message : String) : Reader α := do
  throw ⟨message.toList, (← get).line⟩

/-- The fault that a token does not belong where it stands. -/
def unexpected {α : Type} (t : Token) (expected : Option Token) : Reader α :=
  fail (t.name ++ " unexpected" ++
    (expected.elim "" fun e => " (expecting " ++ e.name ++ ")"))

/-- The line and what is left behind joined lines. -/
def behindJoins (line : Nat) : Bytes → Nat × Bytes
  | '\\' :: '\n' :: rest => behindJoins (line + 1) rest
  | t => (line, t)

/-- The next byte behind joined lines; it stays. -/
def peek : Reader (Option Char) := do
  let i ← get
  let (line, rest) := behindJoins i.line i.rest
  set { i with line, rest }
  return rest.head?

/-- Takes the next byte as it is. -/
def take : Reader (Option Char) := do
  let i ← get
  match i.rest with
  | [] => return none
  | '\n' :: rest =>
    set { i with rest, line := i.line + 1 + i.taken, taken := 0 }
    return some '\n'
  | c :: rest =>
    set { i with rest }
    return some c

/-- Passes over the next byte. -/
def skip : Reader Unit := do let _ ← take

/-- Takes bytes as long as they belong to something. -/
def takeWhile (member : Char → Bool) : (fuel : Nat) → Reader Bytes
  | 0 => return []
  | fuel + 1 => do
    match ← peek with
    | some c =>
      if member c then
        skip
        return c :: (← takeWhile member fuel)
      else return []
    | none => return []

/-- Puts text in the place of a word if it stands for text, and tells whether it does. -/
def replace (name : Bytes) : Reader Bool := do
  let i ← get
  let replacing := i.replacing.filter fun (_, left) => left ≤ i.rest.length
  match i.aliases.lookup name with
  | some text =>
    if replacing.any (·.1 == name) then return false
    set { i with rest := text ++ i.rest, replacing := (name, i.rest.length) :: replacing }
    return true
  | none => return false

/-- Holds a token for the next step. -/
def hold (t : Token) : Reader Unit := modify fun i => { i with held := some t }

end Reader

/-- The signs that end a word. -/
def isMeta (c : Char) : Bool := " \t\n;&|<>()".toList.elem c

/-- Whether a byte alone names a parameter that the shell keeps. -/
def isSpecial (c : Char) : Bool := "!#$*-?@".toList.elem c

def pushText (quoted : Bool) (b : Bytes) : Word → Word
  | .text q a :: rest =>
    if q = quoted then .text q (a ++ b) :: rest else .text quoted b :: .text q a :: rest
  | rest => .text quoted b :: rest

/-- The lines of a document up to the one that ends it, and what follows that. -/
def documentLines (stripped : Bool) (delimiter : Bytes) (read : List Bytes) :
    List Bytes → List Bytes × List Bytes
  | [] => (read.reverse, [])
  | line :: rest =>
    let line := if stripped then line.dropWhile (· == '\t') else line
    if chomp '\n' line = delimiter then ((line :: read).reverse, rest)
    else documentLines stripped delimiter (line :: read) rest

/-- Takes the lines of a document out of what follows the current line. -/
def takeDocument (stripped : Bool) (delimiter : Bytes) : Reader Bytes := do
  let i ← get
  let front := i.rest.takeWhile (· != '\n')
  let lines := linesOf '\n' (i.rest.drop (front.length + 1))
  let (document, after) := documentLines stripped delimiter [] lines
  let closed := document.getLast?.any fun line => chomp '\n' line == delimiter
  set { i with
    rest := front ++ '\n' :: after.flatten, taken := i.taken + document.length }
  return (if closed then document.dropLast else document).flatten

end AmbientDecls.Toolbox.Shell
