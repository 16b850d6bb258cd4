import AmbientDecls.Toolbox.Shell.Pattern

/-!
# Fields

What the words of a command come to. The results of what is not quoted are split where separators
stand in them, and what is left may match the names of files.
-/

namespace AmbientDecls.Toolbox.Shell

/-- Where a byte of an expanded word comes from. -/
inductive Origin where
  | literal
  | quoted
  | result
deriving DecidableEq, Repr, Inhabited

inductive Part where
  | byte (c : Char) (origin : Origin)
  /-- A place that is quoted, so that there is a field even if nothing is in it. -/
  | quotes
  /-- A place between two parameters. -/
  | gap
deriving DecidableEq, Repr, Inhabited

namespace Part

def ofValue (quoted : Bool) (b : Bytes) : List Part :=
  if quoted then quotes :: b.map (byte · .quoted) else b.map (byte · .result)

/-- The bytes of parts that are not split; a space stands between parameters. -/
def bytes (parts : List Part) : Bytes :=
  parts.filterMap fun p => match p with
    | byte c _ => some c
    | quotes => none
    | gap => some ' '

def marks (parts : List Part) : List Mark :=
  parts.filterMap fun p => match p with
    | byte c origin => some (c, origin != .quoted)
    | quotes => none
    | gap => some (' ', true)

end Part

/-- What is known while parts are split: the fields behind, the last one first, and the field that
is open, reversed. -/
structure Splitting where
  fields : List (List Mark) := []
  current : Option (List Mark) := none
  /-- Whether a field has just ended at white space, so that a separator belongs there too. -/
  ended : Bool := false

namespace Splitting

def close (s : Splitting) : Splitting :=
  match s.current with
  | some field => ⟨field.reverse :: s.fields, none, false⟩
  | none => s

/-- Takes in a part; bytes of results that are among the separators end fields. -/
def step (separators : Bytes) (s : Splitting) : Part → Splitting
  | .byte c origin =>
    if origin = .result && separators.elem c then
      if c = ' ' || c = '\t' || c = '\n' then
        match s.current with
        | some _ => { s.close with ended := true }
        | none => s
      else if s.ended then { s with ended := false }
      else ⟨(s.current.getD []).reverse :: s.fields, none, false⟩
    else { s with current := some ((c, origin != .quoted) :: s.current.getD []), ended := false }
  | .quotes => { s with current := some (s.current.getD []), ended := false }
  | .gap => { s.close with ended := false }

end Splitting

def fieldsOf (separators : Bytes) (parts : List Part) : List (List Mark) :=
  (parts.foldl (Splitting.step separators) {}).close.fields.reverse

end AmbientDecls.Toolbox.Shell
