import AmbientDecls.Toolbox.Class
import AmbientDecls.Toolbox.Options

/-!
# Copying tools

Tools that copy what they read: as it is, made visible and numbered, or turned around.
-/

namespace AmbientDecls.Toolbox

def succeed : Tool := fun j => { unread := j.stdin }

/-- Ends badly without reading. -/
def giveUp : Tool := fun j => { status := .code 1, unread := j.stdin }

structure Copying where
  number : Bool := false
  /-- Whether only lines that are not empty have numbers. -/
  numberFilled : Bool := false
  squeeze : Bool := false
  showEnds : Bool := false
  showTabs : Bool := false
  showControls : Bool := false

namespace Copying

/-- A byte made visible; one beyond ASCII is written as a mark and the byte below. -/
def visible (n : Nat) : Bytes :=
  let low := fun (n : Nat) =>
    if n < 32 then ['^', Char.ofNat (n + 64)] else if n = 127 then ['^', '?'] else [Char.ofNat n]
  if n < 128 then low n else 'M' :: '-' :: low (n - 128)

/-- A line as it is shown. A carriage return at the shown end of a line is made visible too. -/
def line (o : Copying) (line : Bytes) : Bytes :=
  let bare := chomp '\n' line
  let shown := bare.flatMap fun c =>
    if c = '\t' then (if o.showTabs then ['^', 'I'] else [c])
    else if o.showControls then visible c.toNat
    else [c]
  if line.length = bare.length then shown
  else if ! o.showEnds then shown ++ ['\n']
  else if shown.getLast? == some '\r' then shown.dropLast ++ ['^', 'M', '$', '\n']
  else shown ++ ['$', '\n']

/-- Copies lines; `number` is the next line's, and `blank` tells that an empty line came before. -/
def lines (o : Copying) (number : Nat) (blank : Bool) (copied : List Bytes) :
    List Bytes → List Bytes
  | [] => copied.reverse
  | line :: rest =>
    let isEmpty := line = ['\n']
    if o.squeeze && blank && isEmpty then lines o number true copied rest
    else
      let numbered := if o.numberFilled then ! isEmpty else o.number
      let front := if numbered then padLeft 6 (decimal number) ++ ['\t'] else []
      lines o (if numbered then number + 1 else number) isEmpty ((front ++ o.line line) :: copied)
        rest

end Copying

/-- Copies its operands, and may number lines and make bytes visible. -/
def cat : Tool := withOptions "cat"
  [⟨'b', "number-nonblank", .nothing, true⟩, ⟨'n', "number", .nothing, true⟩,
    ⟨'s', "squeeze-blank", .nothing, true⟩, ⟨'v', "show-nonprinting", .nothing, true⟩,
    ⟨'E', "show-ends", .nothing, true⟩, ⟨'T', "show-tabs", .nothing, true⟩,
    ⟨'A', "show-all", .nothing, true⟩, ⟨'e', "", .nothing, true⟩, ⟨'t', "", .nothing, true⟩,
    ⟨'u', "", .nothing, true⟩] 1
  fun j p =>
    let any := fun letters : List Char => letters.any p.has
    let o : Copying := {
      number := p.has 'n', numberFilled := p.has 'b', squeeze := p.has 's'
      showEnds := any ['A', 'e', 'E'], showTabs := any ['A', 't', 'T']
      showControls := any ['A', 'e', 't', 'v'] }
    if p.options.all (·.1 == 'u') then j.filter "cat" p.operands id
    else j.filter "cat" p.operands fun b => (o.lines 1 false [] (linesOf '\n' b)).flatten

/-- Copies its stream to its output and to files. -/
def tee : Tool := withOptions "tee"
  [⟨'a', "append", .nothing, true⟩, ⟨'i', "ignore-interrupts", .nothing, true⟩,
    ⟨'p', "", .nothing, true⟩] 1
  fun j p =>
    let before := fun path => if p.has 'a' then (j.read path).toOption.getD [] else []
    { stdout := j.stdin, written := p.operands.map fun path => (path, before path ++ j.stdin) }

/-- The pieces of a stream, the last one first. A separator ends a piece, or with `before` it
starts one. -/
def piecesOf (separator : Bytes) (before : Bool) (piece : Bytes) (found : List Bytes) :
    (fuel : Nat) → Bytes → List Bytes
  | 0, _ => found
  | _, [] => if piece.isEmpty then found else piece.reverse :: found
  | fuel + 1, c :: rest =>
    if separator.isPrefixOf (c :: rest) then
      let behind := (c :: rest).drop separator.length
      if before then
        piecesOf separator before separator.reverse
          (if piece.isEmpty then found else piece.reverse :: found) fuel behind
      else piecesOf separator before [] ((piece.reverse ++ separator) :: found) fuel behind
    else piecesOf separator before (c :: piece) found fuel rest

/-- The pieces of its operands from last to first. -/
def tac : Tool := withOptions "tac"
  [⟨'b', "before", .nothing, true⟩, ⟨'r', "regex", .nothing, true⟩,
    ⟨'s', "separator", .value, true⟩] 1
  fun j p =>
    let separator := match p.last? 's' with
      | some [] => ['\x00']
      | some separator => separator
      | none => ['\n']
    let turned := fun b : Bytes =>
      (piecesOf separator (p.has 'b') [] [] (b.length + 1) b).flatten
    j.each p.operands
      (fun name e => "tac: failed to open ".toList ++ quoted name ++ " for reading: ".toList ++
        e.description.toList)
      fun sources => sources.flatMap fun (_, b) => turned b

/-- The bytes of every line from last to first. -/
def rev : Tool := withOptions "rev" [⟨'0', "zero", .nothing, true⟩] 1 fun j p =>
  let terminator := if p.has '0' then '\x00' else '\n'
  j.each p.operands
    (fun name e => "rev: cannot open ".toList ++ name ++ ": ".toList ++ e.description.toList)
    fun sources => sources.flatMap fun (_, b) =>
      (linesOf terminator b).flatMap fun line =>
        let bare := chomp terminator line
        bare.reverse ++ line.drop bare.length

end AmbientDecls.Toolbox
