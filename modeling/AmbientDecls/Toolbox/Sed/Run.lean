import AmbientDecls.Toolbox.Sed.Basic

/-!
# Running editing scripts

A script is run on every line: the line is taken into the pattern space, the commands that apply to
it are carried out, and the pattern space is written. Some commands take in further lines or begin
again without one.
-/

namespace AmbientDecls.Toolbox.Sed

/-- A line of the input: its text, whether a terminator follows, and where it stands. -/
structure Line where
  text : Bytes
  ended : Bool := true
  file : Bytes := ['-']
  /-- Whether numbers start anew with it. -/
  isFirst : Bool := false
  isLast : Bool := false
deriving Repr, Inhabited

inductive Range where
  | closed
  | upTo (n : Nat)
  | untilFound
deriving DecidableEq, Repr, Inhabited

/-- What is written at the end of a cycle. -/
inductive Queued where
  | text (b : Bytes)
  | file (path : Bytes)
deriving Repr, Inhabited

/-- What is written to one place: pieces, the last one first, and whether the last line lacks its
terminator. -/
structure Output where
  pieces : List Bytes := []
  unended : Bool := false
deriving Repr, Inhabited

namespace Output

/-- With bytes behind the terminator that the last line lacked. -/
def add (o : Output) (terminator : Char) (b : Bytes) : Output :=
  ⟨b :: (if o.unended then [terminator] :: o.pieces else o.pieces), false⟩

def addLine (o : Output) (terminator : Char) (text : Bytes) (ended : Bool) : Output :=
  if ended then o.add terminator (text ++ [terminator])
  else { o.add terminator text with unended := true }

def bytes (o : Output) : Bytes := o.pieces.reverse.flatten

end Output

/-- A text that grows at its end. -/
structure Buffer where
  front : Bytes := []
  /-- What has been put behind the front, the last piece first. -/
  behind : List Bytes := []
deriving Repr, Inhabited

namespace Buffer

def text (b : Buffer) : Bytes :=
  if b.behind.isEmpty then b.front else b.front ++ b.behind.reverse.flatten

def add (b : Buffer) (piece : Bytes) : Buffer := { b with behind := piece :: b.behind }

end Buffer

/-- The surroundings of a run. -/
structure Setting where
  script : Script
  quiet : Bool
  terminator : Char
  lineWidth : Nat
  read : Bytes → Except OsError Bytes
  /-- What a script writes. -/
  evaluate : Bytes → Bytes

structure State where
  input : List Line
  number : Nat := 0
  current : Line := { text := [] }
  space : Buffer := {}
  ended : Bool := true
  held : Buffer := {}
  heldEnded : Bool := true
  replaced : Bool := false
  ranges : Array Range := #[]
  queue : List Queued := []
  output : Output := {}
  /-- Whether the last line that went to the output by its name lacks its terminator. -/
  namedOpen : Bool := false
  files : List (Bytes × Output) := []
  /-- The lines left of files that are read line by line. -/
  unread : List (Bytes × List Bytes) := []
  used : Option Regex := none
  complaint : Option Bytes := none

namespace State

def emit (s : State) (e : Setting) (text : Bytes) (ended : Bool) : State :=
  { s with output := s.output.addLine e.terminator text ended }

def emitBytes (s : State) (e : Setting) (b : Bytes) : State :=
  { s with output := s.output.add e.terminator b }

/-- Writes a line that is no part of the input with its terminator. -/
def emitLine (s : State) (e : Setting) (b : Bytes) : State := s.emitBytes e (b ++ [e.terminator])

/-- Writes the text of a command, whose last line gets the terminator; there may be none. -/
def emitText (s : State) (e : Setting) (b : Bytes) : State :=
  if b.isEmpty then s.emitBytes e [] else s.emitLine e (chomp '\n' b)

/-- Writes a line to a file. The output has a name too, and what goes there by its name is ended on
its own. -/
def emitTo (s : State) (e : Setting) (path text : Bytes) (ended : Bool) : State :=
  if path = "/dev/stdout".toList then
    let front := if s.namedOpen then [e.terminator] else []
    let line := front ++ text ++ (if ended then [e.terminator] else [])
    { s with output := { s.output with pieces := line :: s.output.pieces }, namedOpen := ! ended }
  else
    let before := (s.files.lookup path).getD {}
    let after := before.addLine e.terminator text ended
    { s with files := (path, after) :: s.files.filter (·.1 ≠ path) }

def flush (s : State) (e : Setting) : State :=
  let step := fun (s : State) (q : Queued) =>
    match q with
    | .text b => s.emitBytes e b
    | .file path =>
      match e.read path with
      | .ok content => s.emitBytes e content
      | .error _ => s.emitBytes e []
  { s.queue.foldl step s with queue := [] }

/-- Queues the next line of a file, if there is one. -/
def queueLine (s : State) (e : Setting) (path : Bytes) : State :=
  let lines := (s.unread.lookup path).getD
    (linesOf e.terminator ((e.read path).toOption.getD []))
  match lines with
  | [] => s
  | line :: rest =>
    { s with
      queue := s.queue ++ [.text line]
      unread := (path, rest) :: s.unread.filter (·.1 ≠ path) }

/-- Takes in the next line, onto the pattern space with `append`. -/
def advance (s : State) (e : Setting) (append : Bool) : Option State :=
  match s.input with
  | [] => none
  | line :: rest =>
    let s := s.flush e
    let number := if line.isFirst then 1 else s.number + 1
    some { s with
      input := rest, number, current := line, replaced := false
      space := if append then s.space.add (e.terminator :: line.text) else { front := line.text }
      ended := line.ended
      ranges := if line.isFirst then opening e.script.commands else s.ranges }
where
  /-- The ranges before the first line: those that start before it are open. -/
  opening (commands : Array Command) : Array Range :=
    commands.map fun c => if c.first = some (.line 0) then .untilFound else .closed

def fault (s : State) (message : String) : State :=
  { s with complaint := some message.toList }

/-- A pattern, or the one used last; and the state that remembers it. -/
def resolve (s : State) (r : Option Regex) : Option Regex × State :=
  match r.or s.used with
  | some r => (some r, { s with used := some r })
  | none => (none, s.fault "no previous regular expression")

def holds (s : State) (a : Address) : Bool × State :=
  match a with
  | .line n => (s.number = n, s)
  | .every first step => (first ≤ s.number && (s.number - first) % step = 0, s)
  | .last => (s.current.isLast, s)
  | .pattern r =>
    match s.resolve r with
    | (some r, s) => (r.occursIn s.space.text, s)
    | (none, s) => (false, s)
  | .more _ | .multiple _ => (false, s)

/-- What a range waits for when it opens at the line, if it goes on behind it. -/
def opened (s : State) : Address → Range
  | .line n => if n ≤ s.number then .closed else .upTo n
  | .more n => if n = 0 then .closed else .upTo (s.number + n)
  | .multiple n => if n = 0 || s.number % n = 0 then .closed else .upTo ((s.number / n + 1) * n)
  | _ => .untilFound

def applies (s : State) (place : Nat) (c : Command) : Bool × State :=
  let (selected, s) : Bool × State :=
    match c.first, c.last with
    | none, _ => (true, s)
    | some a, none => s.holds a
    | some a, some b =>
      let range (s : State) (r : Range) : State :=
        { s with ranges := s.ranges.setIfInBounds place r }
      match s.ranges.getD place .closed with
      | .closed =>
        let (found, s) := s.holds a
        if found then (true, range s (s.opened b)) else (false, s)
      | .upTo n => (s.number ≤ n, if n ≤ s.number then range s .closed else s)
      | .untilFound =>
        match b with
        | .line n => (s.number ≤ n, if n ≤ s.number then range s .closed else s)
        | b =>
          let (found, s) := s.holds b
          (true, if found then range s .closed else s)
  (selected != c.inverted, s)

end State

/-- Letters in a case. -/
def Casing.apply (c : Casing) (b : Bytes) : Bytes :=
  match c with
  | .same => b
  | .upper => b.map Char.toUpper
  | .lower => b.map Char.toLower

/-- Text with the case of its first letter and of the others. -/
def cased (first rest : Casing) (b : Bytes) : Bytes :=
  match b with
  | [] => []
  | c :: cs => if first = .same then rest.apply b else first.apply [c] ++ rest.apply cs

/-- What a match is replaced by. The case of a first letter that finds none waits for the next
piece. -/
def image (m : Regex.Match) (waiting : Casing) : List Piece → Bytes
  | [] => []
  | p :: rest =>
    let first := if p.first = .same then waiting else p.first
    let front := cased first p.casing p.text
    let first := if p.text.isEmpty then first else .same
    match p.group with
    | none => front ++ image m .same rest
    | some n =>
      let found := m.group n
      if found.isEmpty then front ++ image m (if p.first = .same then .same else first) rest
      else front ++ cased first p.casing found ++ image m .same rest

/-- The text with its matches from the given number on replaced, reversed, behind what is `done`,
and whether there were any. An empty match right behind another does not count. -/
def substituted (r : Regex) (s : Substitution) (count : Nat) (lastEnd : Option Nat) (done : Bytes)
    (any : Bool) : (fuel : Nat) → Regex.Spot → Bytes × Bool
  | 0, spot => (done, any && spot.rest.isEmpty)
  | fuel + 1, spot =>
    match r.search spot with
    | none => (spot.rest.reverse ++ done, any)
    | some m =>
      let done := m.passed ++ done
      let found := m.found
      let isRepeat := found.isEmpty && lastEnd = some m.first.position
      let count := if isRepeat then count else count + 1
      let hit := ! isRepeat && s.nth ≤ count
      let done := if hit then (image m .same s.pieces).reverse ++ done else found.reverse ++ done
      let any := any || hit
      let after : Regex.Spot := { m.last with groups := [] }
      if hit && ! s.everywhere then (after.rest.reverse ++ done, any)
      else if found.isEmpty then
        match after.rest with
        | [] => (done, any)
        | c :: rest =>
          substituted r s count (some after.position) (c :: done) any fuel
            ⟨after.position + 1, some c, rest, []⟩
      else substituted r s count (some after.position) done any fuel after

def listed (c : Char) : Bytes :=
  if c = '\\' then ['\\', '\\'] else if isShown c then [c] else escapedByte c

/-- Listed bytes in lines that are no wider than allowed. -/
def listedLines (terminator : Char) (width column : Nat) : List Bytes → Bytes
  | [] => ['$', terminator]
  | b :: rest =>
    if 0 < width && width - 1 < column + b.length then
      '\\' :: terminator :: (b ++ listedLines terminator width b.length rest)
    else b ++ listedLines terminator width (column + b.length) rest

inductive Step where
  /-- The next command is at a place. -/
  | goOn (s : State) (place : Nat)
  /-- The script is at its end for the line. -/
  | cycleEnd (s : State)
  /-- The pattern space is not written. -/
  | dropped (s : State)
  /-- The script starts again with the pattern space as it is. -/
  | again (s : State)
  /-- The run ends, and the pattern space is written first or not. -/
  | quit (s : State) (status : Nat) (silently : Bool)
  | failed (s : State)

/-- The text before the first line break, and what is behind it if there is one. -/
def firstLine (terminator : Char) (b : Bytes) : Bytes × Option Bytes :=
  let front := b.takeWhile (· != terminator)
  match b.drop front.length with
  | [] => (front, none)
  | _ :: rest => (front, some rest)

def State.substitute (s : State) (e : Setting) (place : Nat) (sub : Substitution) : Step :=
  match s.resolve sub.pattern with
  | (none, s) => .failed s
  | (some r, s) =>
    let (result, any) :=
      substituted r sub 0 none [] false (s.space.text.length + 2) { rest := s.space.text }
    if ! any then .goOn s (place + 1)
    else
      let first := result.reverse
      let s := if sub.evaluate && sub.print && sub.printsFirst then s.emit e first s.ended else s
      let text := if sub.evaluate then chomp e.terminator (e.evaluate first) else first
      let s := { s with space := { front := text }, replaced := true }
      let s :=
        if sub.print && ! (sub.evaluate && sub.printsFirst) then s.emit e text s.ended else s
      let s := match sub.target with
        | some path => s.emitTo e path text s.ended
        | none => s
      .goOn s (place + 1)

def State.perform (s : State) (e : Setting) (place : Nat) (c : Command) : Step :=
  let on := fun (s : State) => Step.goOn s (place + 1)
  match c.action with
  | .block _ | .nothing => on s
  | .jump .always target => .goOn s target
  | .jump .ifReplaced target =>
    if s.replaced then .goOn { s with replaced := false } target else on s
  | .jump .ifNotReplaced target =>
    if s.replaced then on { s with replaced := false } else .goOn s target
  | .append text => on { s with queue := s.queue ++ [.text text] }
  | .insert text => on (s.emitText e text)
  | .change text =>
    let isOpen := c.last.isSome && ! c.inverted && s.ranges.getD place .closed ≠ .closed
    .dropped (if isOpen then s else s.emitText e text)
  | .delete => .dropped s
  | .deleteFirst =>
    match firstLine e.terminator s.space.text with
    | (_, none) => .dropped s
    | (_, some rest) => .again { s with space := { front := rest } }
  | .print => on (s.emit e s.space.text s.ended)
  | .printFirst =>
    match firstLine e.terminator s.space.text with
    | (line, none) => on (s.emit e line s.ended)
    | (line, some _) => on (s.emit e line true)
  | .next =>
    if s.input.isEmpty then .cycleEnd s
    else
      let s := if e.quiet then s else s.emit e s.space.text s.ended
      match s.advance e false with
      | some s => on s
      | none => .cycleEnd s
  | .nextAppended =>
    match s.advance e true with
    | some s => on s
    | none => .cycleEnd s
  | .quit status => .quit s status false
  | .quitSilently status => .quit s status true
  | .readFile path => on { s with queue := s.queue ++ [.file path] }
  | .readLine path => on (s.queueLine e path)
  | .writeFile path => on (s.emitTo e path s.space.text s.ended)
  | .writeFirst path =>
    match firstLine e.terminator s.space.text with
    | (line, none) => on (s.emitTo e path line s.ended)
    | (line, some _) => on (s.emitTo e path line true)
  | .substitute sub => s.substitute e place sub
  | .translate pairs =>
    let become := fun c => (pairs.lookup c).getD c
    on { s with space := { front := s.space.text.map become } }
  | .list width =>
    on (s.emitBytes e
      (listedLines e.terminator (width.getD e.lineWidth) 0 (s.space.text.map listed)))
  | .number => on (s.emitLine e (decimal s.number))
  | .name => on (s.emitLine e s.current.file)
  | .zap => on { s with space := {} }
  | .get => on { s with space := s.held, ended := s.heldEnded }
  | .getAppended =>
    on { s with
      space := { front := s.space.text ++ e.terminator :: s.held.text }, ended := s.heldEnded }
  | .hold => on { s with held := s.space, heldEnded := s.ended }
  | .holdAppended =>
    on { s with held := s.held.add (e.terminator :: s.space.text), heldEnded := s.ended }
  | .run script => on (s.emitBytes e (e.evaluate script))
  | .evaluate =>
    on { s with space := { front := chomp e.terminator (e.evaluate s.space.text) } }
  | .exchange =>
    on { s with space := s.held, ended := s.heldEnded, held := s.space, heldEnded := s.ended }

/-- Carries out the command at a place, if it applies. -/
def State.step (s : State) (e : Setting) (place : Nat) : Step :=
  match e.script.commands[place]? with
  | none => .cycleEnd s
  | some c =>
    let (applied, s) := s.applies place c
    if s.complaint.isSome then .failed s
    else if applied then s.perform e place c
    else match c.action with
      | .block behind => .goOn s behind
      | _ => .goOn s (place + 1)

def State.closeCycle (s : State) (e : Setting) (silently : Bool) : State :=
  if silently || e.quiet then s else s.emit e s.space.text s.ended

/-- Runs a script on all lines, and returns the status that it ends with, or none if it fails. -/
def State.run (s : State) (e : Setting) : (fuel : Nat) → (place : Option Nat) →
    State × Option Nat
  | 0, _ => (s, some 0)
  | fuel + 1, none =>
    match s.advance e false with
    | none => (s.flush e, some 0)
    | some s => State.run s e fuel (some 0)
  | fuel + 1, some place =>
    match s.step e place with
    | .goOn s place => State.run s e fuel (some place)
    | .cycleEnd s => State.run (s.closeCycle e false) e fuel none
    | .dropped s => State.run s e fuel none
    | .again s => State.run (s.flush e) e fuel (some 0)
    | .quit s status silently =>
      (if silently then s else ((s.closeCycle e false).emitBytes e []).flush e, some status)
    | .failed s => (s, none)

end AmbientDecls.Toolbox.Sed
