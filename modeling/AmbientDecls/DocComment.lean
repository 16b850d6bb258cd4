import AmbientDecls.Text.Basic

/-!
# Documentation comments

A documentation comment is collected line by line and written as a block from `/**` to ` */`.
The two characters that would close the block are escaped in every line that goes in, so the
block ends where its last line says and nowhere before.
-/

namespace AmbientDecls

/-- A documentation comment, as the lines between its first and its last. -/
structure DocComment where
  lines : List Text := []
deriving DecidableEq, Repr

namespace DocComment

/-- Puts a backslash between an asterisk and a slash that follows it. -/
def escape : Text → Text
  | '*' :: '/' :: rest => '*' :: '\\' :: '/' :: escape rest
  | c :: rest => c :: escape rest
  | [] => []

def line (d : DocComment) (l : Text) : DocComment := ⟨d.lines ++ [escape l]⟩

/-- Appends free text, one line of the comment for each line of the text. -/
def text (d : DocComment) (t : Text) : DocComment :=
  ⟨d.lines ++ t.lines.map fun l => escape l.dropReturn⟩

def blank (d : DocComment) : DocComment := ⟨d.lines ++ [[]]⟩

/-- Appends free text unless it is absent or empty. -/
def text? (d : DocComment) (t : Option String) : DocComment :=
  match t.getD "" with
  | "" => d
  | t => d.text t.toList

/-- One inner line as written; nothing follows the asterisk of an empty line. -/
def renderLine (indent l : Text) : Text :=
  if l.isEmpty then indent ++ " *".toList else indent ++ " * ".toList ++ l

/-- The lines of the written block, each after `indent`. -/
def render (d : DocComment) (indent : Text) : List Text :=
  (indent ++ "/**".toList) :: d.lines.map (renderLine indent) ++ [indent ++ " */".toList]

end DocComment

end AmbientDecls
