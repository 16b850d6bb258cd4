import AmbientDecls.Layout.Line

/-!
# Layout of a document

Laying a document out recomputes its white space and nothing else. Every line is indented by the
number of blocks open around it, the inner lines of a comment that start with an asterisk by one
space more. Of the blank lines between two lines one is kept, but none after a line that ends in
an opening brace, none before a line that closes a block, and none at the ends.
-/

namespace AmbientDecls.Layout

/-- How a document is laid out. -/
structure Options where
  /-- The number of spaces for each open block. -/
  indentSize : Nat := 4
  /-- Whether to indent by spaces; otherwise by one tab for each open block. -/
  convertTabsToSpaces : Bool := true
  /-- Whether lines always end in a line feed, also in a document with carriage returns. -/
  replaceLineEndings : Bool := false
deriving DecidableEq, Repr, Inhabited

/-- Why a document cannot be laid out. -/
inductive Fault where
  /-- The line closes a block and none is open. -/
  | unbalanced (line : Nat)
  /-- So many blocks are open at the end. -/
  | unclosed (depth : Nat)
deriving DecidableEq, Repr, Inhabited

/-- Every line with the number of blocks open around it. A line that closes a block stands outside
it, a line that opens one does too. -/
def place (depth : Nat) : List Line → Except Fault (List (Nat × Line))
  | [] => if depth = 0 then .ok [] else .error (.unclosed depth)
  | l :: rest =>
    if l.closes && depth == 0 then .error (.unbalanced l.number)
    else
      let here := if l.closes then depth - 1 else depth
      (place (if l.opens then here + 1 else here) rest).map ((here, l) :: ·)

/-- The indentation of one open block. -/
def Options.unit (o : Options) : Text :=
  if o.convertTabsToSpaces then List.replicate o.indentSize ' ' else ['\t']

/-- The space that aligns the inner lines of a comment below its first line. -/
def Line.pad (l : Line) : Text :=
  if l.role == .inner && l.text.head? == some '*' then [' '] else []

def indented (unit : Text) (depth : Nat) (l : Line) : Text :=
  (List.replicate depth unit).flatten ++ l.pad ++ l.text

/-- Whether an empty line is kept between two lines that follow each other. -/
def keepsBlank (previous next : Line) : Bool :=
  next.afterBlank && previous.text.getLast? != some '{' && ! next.closes

/-- The lines that are written after `previous`. -/
def writtenAfter (unit : Text) (previous : Line) : List (Nat × Line) → List Text
  | [] => []
  | (depth, l) :: rest =>
    (if keepsBlank previous l then [[]] else []) ++
      indented unit depth l :: writtenAfter unit l rest

def written (unit : Text) : List (Nat × Line) → List Text
  | [] => []
  | (depth, l) :: rest => indented unit depth l :: writtenAfter unit l rest

/-- The line terminator that is written: the document's own, or always a line feed. -/
def Options.terminator (o : Options) (t : Text) : Text :=
  if ! o.replaceLineEndings && Text.includes ['\r', '\n'] t then ['\r', '\n'] else ['\n']

end AmbientDecls.Layout

namespace AmbientDecls

/-- Lays a document out. -/
def layout (o : Layout.Options) (t : Text) : Except Layout.Fault Text :=
  (Layout.place 0 (Layout.linesOf t)).map fun placed =>
    let terminator := o.terminator t
    Text.join terminator (Layout.written o.unit placed) ++ terminator

end AmbientDecls
