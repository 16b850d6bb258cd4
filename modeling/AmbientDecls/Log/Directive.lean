import AmbientDecls.Log.Event
import AmbientDecls.Text.Alphanumeric
import AmbientDecls.Text.Blank

/-!
# Log directives

A directive sets the level for events. It may ask for a target, which the origin of an event has to
start with, and for a field, which the event has to have: `target[\x7bfield\x7d]=level`. A name or
a value in the brackets makes it a directive about spans of time, and those say nothing of events.
-/

namespace AmbientDecls

/-- The events with a target and a field up to some level; no level means none of them. -/
structure Directive where
  target : Option Text := none
  field : Option Text := none
  level : Option Level
deriving DecidableEq, Repr, Inhabited

namespace Directive

/-- The level of a number, where zero is none. -/
def levelOfRank : Nat → Option (Option Level)
  | 0 => some none
  | 1 => some (some .error)
  | 2 => some (some .warn)
  | 3 => some (some .info)
  | 4 => some (some .debug)
  | 5 => some (some .trace)
  | _ => none

/-- The level that a word or a number stands for, where `off` is none. -/
def level? (t : Text) : Option (Option Level) :=
  let digits := match t with
    | '+' :: rest => rest
    | _ => t
  if ! digits.isEmpty && digits.all Char.isDigit then
    levelOfRank (digits.foldl (fun n c => n * 10 + (c.toNat - '0'.toNat)) 0)
  else
    match String.ofList (t.map Char.toLower) with
    | "off" => some none
    | "error" => some (some .error)
    | "warn" => some (some .warn)
    | "info" => some (some .info)
    | "debug" => some (some .debug)
    | "trace" => some (some .trace)
    | _ => none

/-- Whether a directive may start with a character: a letter, a digit, or one of three signs. -/
def isStart (c : Char) : Bool :=
  Text.isAlphanumeric c || c == '-' || c == ':' || c == '_'

structure Draft where
  target : Option Text := none
  /-- Whether a name in the brackets makes it a directive about spans. -/
  named : Bool := false
  field : Option Text := none
deriving DecidableEq, Repr, Inhabited

/-- Where the reading of a directive stands; a number is where the piece begins that is read. -/
inductive Stage where
  | start
  | name (first : Nat)
  | brackets (first : Nat)
  | field (first : Nat)
  | fieldDone
  | bracketsDone
  | level (first : Nat)
deriving DecidableEq, Repr, Inhabited

/-- Reads the character at `place`. The piece of the text between two places is `cut`. -/
def advance (cut : Nat → Nat → Text) (place : Nat) (draft : Draft) (stage : Stage) (c : Char) :
    Option (Draft × Stage) :=
  match stage with
  | .start =>
    if c = '[' then some (draft, .brackets (place + 1))
    else if isStart c then some (draft, .name place)
    else none
  | .name first =>
    if c = '=' then some ({ draft with target := some (cut first place) }, .level (place + 1))
    else if c = '[' then
      some ({ draft with target := some (cut first place) }, .brackets (place + 1))
    else some (draft, stage)
  | .brackets first =>
    if c = ']' then some ({ draft with named := true }, .bracketsDone)
    else if c = '\x7b' then
      some ({ draft with named := ! (cut first place).isEmpty }, .field (place + 1))
    else some (draft, stage)
  | .field first =>
    if c = '\x7d' then
      let field := cut first place
      if field.isEmpty then none else some ({ draft with field := some field }, .fieldDone)
    else some (draft, stage)
  | .fieldDone => if c = ']' then some (draft, .bracketsDone) else none
  | .bracketsDone => if c = '=' then some (draft, .level (place + 1)) else none
  | .level _ => some (draft, stage)

def read (cut : Nat → Nat → Text) (place : Nat) (draft : Draft) (stage : Stage) :
    Text → Option (Draft × Stage)
  | [] => some (draft, stage)
  | c :: rest =>
    match advance cut place draft stage c with
    | none => none
    | some (draft, stage) => read cut (place + 1) draft stage rest

/-- A directive at a level, or none if it is about spans. -/
def Draft.finish (d : Draft) (level : Option Level) : Option Directive :=
  match d.named, d.field with
  | true, _ => none
  | false, none => some ⟨d.target, none, level⟩
  | false, some field => if field.elem '=' then none else some ⟨d.target, some field, level⟩

/-- Reads a directive. The outer result tells whether it can be read, the inner one is none for a
directive about spans. Without a level it is for all levels. Places are counted from the first
character that is not blank, but pieces are cut at those places out of the whole text, so that
blanks in front move every piece. -/
def parse (t : Text) : Option (Option Directive) :=
  let cut := fun first last => (t.drop first).take (last - first)
  match read cut 0 {} .start t.trim with
  | none => none
  | some (draft, .name first) =>
    match level? (t.drop first) with
    | some level => some (draft.finish level)
    | none => some (({ draft with target := some (t.drop first) } : Draft).finish (some .trace))
  | some (draft, .level first) =>
    if (t.drop first).isEmpty then some (draft.finish (some .trace))
    else (level? (t.drop first)).map draft.finish
  | some (draft, .bracketsDone) => some (draft.finish (some .trace))
  | some _ => none

/-- Whether a directive says something about an event of a program. -/
def appliesTo (d : Directive) (program : Text) (e : Event) : Bool :=
  (match d.target with
    | none => true
    | some t => t.isPrefixOf (program ++ e.origin.toList)) &&
  (match d.field with
    | none => true
    | some f => e.fields.contains (String.ofList f))

/-- How many bytes longer than none a text is; no text counts least. -/
def extent : Option Text → Nat
  | none => 0
  | some t => t.byteSize + 1

/-- Whether a directive is as specific as another: by its target, then by its field. -/
def isAsSpecificAs (d e : Directive) : Bool :=
  let (m, n) := (extent d.target, extent e.target)
  if m = n then
    match d.field, e.field with
    | none, some _ => false
    | some f, some g => ! f.comesBefore g
    | _, none => true
  else n < m

end Directive

end AmbientDecls
