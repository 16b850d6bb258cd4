import AmbientDecls.Files.System
import AmbientDecls.Format.External

/-!
# Tools

A tool is a small program that reads bytes and writes bytes. Formatters are made of them. Tools
know no characters but bytes, and a byte is written here as the character of the same number. This
file has what all tools share: what a tool is given, how it ends, and the lines of a stream.
-/

namespace AmbientDecls.Toolbox

/-- A sequence of bytes, each written as the character of the same number. -/
abbrev Bytes := List Char

namespace Bytes

def ofArray (a : ByteArray) : Bytes := a.toList.map fun b => Char.ofNat b.toNat

def ofText (t : Text) : Bytes := ofArray (String.ofList t).toUTF8

def toArray (b : Bytes) : ByteArray := ⟨(b.map fun c => c.toNat.toUInt8).toArray⟩

def toText (b : Bytes) : Text := Utf8.decodeLossy (b.map fun c => c.toNat.toUInt8)

end Bytes

/-- What a tool is given. -/
structure Job where
  args : List Bytes
  stdin : Bytes := []
  files : FileSystem := {}
  /-- The name that the tool was called by. -/
  called : Bytes := []
  /-- The variables that the tool is given. -/
  environment : List (Bytes × Bytes) := []

/-- How a tool ended, what it left unread, and the files that it wrote, in order. -/
structure Ended where
  status : ExitStatus := .code 0
  stdout : Bytes := []
  stderr : Bytes := []
  unread : Bytes := []
  /-- The files as the tool made them be before it wrote any, if it did. -/
  changed : Option FileSystem := none
  written : List (Bytes × Bytes) := []

abbrev Tool := Job → Ended

/-- A line of a message with another name of the tool, which may stand in the `advised` line too. -/
def renamedLine (name called : Bytes) (advised : Bool) (line : Bytes) : Bytes :=
  let advice := "Try '".toList ++ name ++ " --help'".toList
  if (name ++ [':', ' ']).isPrefixOf line then called ++ line.drop name.length
  else if advised && advice.isPrefixOf line then
    "Try '".toList ++ called ++ " --help'".toList ++ line.drop advice.length
  else line

/-- A tool whose messages begin with the name that it is called by. -/
def underName (name : Bytes) (advised : Bool) (tool : Tool) : Tool := fun j =>
  let ended := tool j
  if j.called = name || j.called.isEmpty then ended
  else
    { ended with
      stderr := ['\n'].intercalate ((Text.split (· == '\n') ended.stderr).map
        (renamedLine name j.called advised)) }

/-- Finds the tool that a program stands for, or why there is none. -/
abbrev Finder := FileSystem → Text → Except OsError Tool

/-- The files after a tool ended, given those before. -/
def Ended.filesAfter (e : Ended) (fs : FileSystem) : FileSystem :=
  e.written.foldl
    (fun fs (path, content) =>
      (fs.write (Bytes.toText path) (Bytes.toArray content)).files)
    (e.changed.getD fs)

def Job.read (j : Job) (path : Bytes) : Except OsError Bytes :=
  (j.files.read (Bytes.toText path)).map Bytes.ofArray

/-- The end of a tool that gives up before it reads anything. -/
def Job.refuse (j : Job) (message : Bytes) (status : Nat) : Ended where
  status := .code status
  stderr := message ++ ['\n']
  unread := j.stdin

/-- The end of a tool that is not used right, with the advice to look up how it is. -/
def Job.misused (j : Job) (tool : String) (problem : Bytes) (status : Nat) : Ended :=
  j.refuse (tool.toList ++ ": ".toList ++ problem ++
    "\nTry '".toList ++ tool.toList ++ " --help' for more information.".toList) status

def enclosed (b : Bytes) : Bytes := '\'' :: b ++ ['\'']

/-- A byte that is not shown, as it is written in quotes. -/
def escapedByte (c : Char) : Bytes :=
  match c with
  | '\x07' => ['\\', 'a']
  | '\x08' => ['\\', 'b']
  | '\x0c' => ['\\', 'f']
  | '\n' => ['\\', 'n']
  | '\r' => ['\\', 'r']
  | '\t' => ['\\', 't']
  | '\x0b' => ['\\', 'v']
  | c =>
    let figures := Nat.toDigits 8 c.toNat
    '\\' :: (List.replicate (3 - figures.length) '0' ++ figures)

def isShown (c : Char) : Bool := ' ' ≤ c && c ≤ '~'

/-- Bytes between quotes, for messages. -/
def quoted (b : Bytes) : Bytes :=
  enclosed (b.flatMap fun c =>
    if c = '\'' || c = '\\' then ['\\', c] else if isShown c then [c] else escapedByte c)

/-- Whether a byte means nothing to scripts; some mean something at the front only. -/
def isPlainAt (alone isFirst : Bool) (c : Char) : Bool :=
  if c = '\x7b' || c = '\x7d' then ! alone
  else if c = '#' || c = '~' then ! isFirst
  else isShown c && ! " !\"$&'()*;<=>[^\x60|?\\".toList.elem c

/-- Quoted bytes behind an open quote; `escaping` tells that the quote is for bytes that are not
shown. -/
def quotedTail (escaping : Bool) : Bytes → Bytes
  | [] => ['\'']
  | c :: rest =>
    if isShown c then
      (if escaping then ['\'', '\''] else []) ++
        (if c = '\'' then "'\\''".toList else [c]) ++ quotedTail false rest
    else (if escaping then [] else "'$'".toList) ++ escapedByte c ++ quotedTail true rest

/-- Bytes in the form that scripts read them back from, without quotes if they need none. -/
def scriptForm (b : Bytes) : Bytes :=
  let alone := b.length = 1
  let plain := b.zipIdx.all fun (c, i) => isPlainAt alone (i == 0) c
  let mild := b.zipIdx.all fun (c, i) =>
    isPlainAt alone (i == 0) c && ! ((c == '#' || c == '~' || c == '\x7b' || c == '\x7d')) ||
      c == ' ' || c == '\'' || ((c == '#' || c == '~') && i == 0)
  if ! b.isEmpty && plain then b
  else if b.elem '\'' && mild then '"' :: b ++ ['"']
  else '\'' :: quotedTail false b

def decimal (n : Nat) : Bytes := Nat.toDigits 10 n

/-- The number that decimal digits stand for. -/
def number? (b : Bytes) : Option Nat :=
  if b.isEmpty || ! b.all Char.isDigit then none
  else some (b.foldl (fun n c => n * 10 + (c.toNat - '0'.toNat)) 0)

/-- Bytes that fill a column from the right. -/
def padLeft (width : Nat) (b : Bytes) : Bytes := List.replicate (width - b.length) ' ' ++ b

def linesOf (terminator : Char) (stream : Bytes) : List Bytes :=
  let step := fun (state : Bytes × List Bytes) (c : Char) =>
    if c == terminator then ([], (c :: state.1).reverse :: state.2) else (c :: state.1, state.2)
  let (last, closed) := stream.foldl step ([], [])
  (if last.isEmpty then closed else last.reverse :: closed).reverse

def chomp (terminator : Char) (line : Bytes) : Bytes :=
  if line.getLast? == some terminator then line.dropLast else line

def bareLines (terminator : Char) (stream : Bytes) : List Bytes :=
  (linesOf terminator stream).map (chomp terminator)

def joinLines (terminator : Char) (lines : List Bytes) : Bytes :=
  lines.flatMap fun line => line ++ [terminator]

def streamName : Bytes := "/dev/stdin".toList

/-- An operand's bytes, where a hyphen stands for what is unread. -/
structure Source where
  name : Bytes
  content : Except OsError Bytes

/-- The operands with their bytes. Only the first hyphen finds anything to read. -/
def Job.sources (j : Job) : List Bytes → List Source
  | [] => []
  | operand :: rest =>
    if operand = ['-'] || operand = streamName then
      ⟨operand, .ok j.stdin⟩ :: sources { j with stdin := [] } rest
    else ⟨operand, j.read operand⟩ :: sources j rest

/-- Whether operands, of which none means the stream, have the stream among them. -/
def readsStream (operands : List Bytes) : Bool :=
  operands.isEmpty || operands.contains ['-'] || operands.contains streamName

/-- Turns the bytes of the operands, or of the stream if there are none, into others. The function
is given each source that can be read, and for each other one there is a complaint. -/
def Job.each (j : Job) (operands : List Bytes) (complaint : Bytes → OsError → Bytes)
    (f : List (Bytes × Bytes) → Bytes) : Ended :=
  let sources := j.sources (if operands.isEmpty then [['-']] else operands)
  let readable := sources.filterMap fun s =>
    match s.content with
    | .ok content => some (s.name, content)
    | .error _ => none
  let complaints := sources.filterMap fun s =>
    match s.content with
    | .ok _ => none
    | .error e => some (complaint s.name e)
  { status := .code (if complaints.isEmpty then 0 else 1)
    stdout := f readable
    stderr := joinLines '\n' complaints
    unread := if readsStream operands then [] else j.stdin }

/-- A file's name in messages. -/
def shownName (name : Bytes) : Bytes :=
  if name.elem ':' && name = scriptForm name then enclosed name else scriptForm name

/-- The complaint that a file cannot be read. -/
def unreadable (tool : String) (name : Bytes) (e : OsError) : Bytes :=
  tool.toList ++ ": ".toList ++ shownName name ++ ": ".toList ++ e.description.toList

/-- The complaint that a file cannot be opened. -/
def unopened (tool : String) (name : Bytes) (e : OsError) : Bytes :=
  tool.toList ++ ": cannot open ".toList ++ quoted name ++ " for reading: ".toList ++
    e.description.toList

/-- Turns the bytes of the operands one after another into others. -/
def Job.filter (j : Job) (tool : String) (operands : List Bytes) (f : Bytes → Bytes) : Ended :=
  j.each operands (unreadable tool) fun sources => f (sources.flatMap (·.2))

end AmbientDecls.Toolbox
