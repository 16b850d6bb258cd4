import AmbientDecls.Text.Blank

/-!
# Lines of a document

The layout sees a document as its lines that are not blank, each trimmed and with what it is: code
or a piece of a comment. Only lines of code open and close blocks, the first by ending in an
opening brace and the second by starting with a closing one; braces anywhere else do not count.
-/

namespace AmbientDecls.Layout

/-- What a line is to the layout. -/
inductive Role where
  /-- A line outside comments. -/
  | code
  /-- A line comment, or the first line of a block comment. -/
  | comment
  /-- A further line of a block comment, its last included. -/
  | inner
deriving DecidableEq, Repr, Inhabited

/-- A line that is not blank. -/
structure Line where
  /-- Its number among all lines of the document, from one. -/
  number : Nat
  /-- Whether a blank line stands right before it. -/
  afterBlank : Bool
  role : Role
  /-- The line without the blank characters at its ends. -/
  text : Text
deriving DecidableEq, Repr, Inhabited

namespace Line

/-- Whether the line closes a block. -/
def closes (l : Line) : Bool := l.role == .code && l.text.head? == some '}'

/-- Whether the line opens a block. -/
def opens (l : Line) : Bool := l.role == .code && l.text.getLast? == some '{'

end Line

/-- The role of a line that is not blank, and whether a block comment is open after it. -/
def roleOf (inComment : Bool) (text : Text) : Role × Bool :=
  if inComment then (.inner, ! Text.includes "*/".toList text)
  else if "/*".toList.isPrefixOf text then (.comment, ! Text.includes "*/".toList (text.drop 2))
  else if "//".toList.isPrefixOf text then (.comment, false)
  else (.code, false)

/-- The lines from the line with number `number` on. -/
def classify (number : Nat) (afterBlank inComment : Bool) : List Text → List Line
  | [] => []
  | raw :: rest =>
    match raw.trim with
    | [] => classify (number + 1) true inComment rest
    | text =>
      let (role, stillOpen) := roleOf inComment text
      ⟨number, afterBlank, role, text⟩ :: classify (number + 1) false stillOpen rest

def linesOf (t : Text) : List Line := classify 1 false false t.lines

end AmbientDecls.Layout
