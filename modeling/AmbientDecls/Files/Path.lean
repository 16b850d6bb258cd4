import AmbientDecls.Text.Basic

/-!
# Paths

A path is a text whose pieces are divided by slashes. Two paths are the same if they have the same
components, where empty pieces and single dots do not count, except for a dot that a path starts
with.
-/

namespace AmbientDecls

/-- A path as it is written. -/
abbrev Path := Text

namespace Path

def isAbsolute (p : Path) : Bool := p.head? == some '/'

/-- The pieces of the path; those of an absolute path are the ones after its first slash. -/
def pieces (p : Path) : List Text :=
  if p.isAbsolute then Text.split (· == '/') (p.drop 1) else Text.split (· == '/') p

/-- What tells paths apart: where the path starts and the pieces that count. -/
def components (p : Path) : Bool × List Text :=
  let counted := fun (ps : List Text) => ps.filter fun piece => piece != [] && piece != ['.']
  match p.isAbsolute, p.pieces with
  | false, ['.'] :: rest => (false, ['.'] :: counted rest)
  | isAbsolute, pieces => (isAbsolute, counted pieces)

def same (p q : Path) : Bool := p.components == q.components

/-- Whether the path names the working directory by a dot. -/
def isDot (p : Path) : Bool := p.same ['.']

/-- The path of `name` inside the directory `p`. -/
def join (p : Path) (name : Text) : Path :=
  if p.isEmpty || p.getLast? == some '/' then p ++ name else p ++ '/' :: name

/-- Appends a path unless it is the same as one before. -/
def addNew (seen : List Path) (p : Path) : List Path :=
  if seen.any (·.same p) then seen else seen ++ [p]

end Path

end AmbientDecls
