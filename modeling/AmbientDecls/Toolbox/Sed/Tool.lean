import AmbientDecls.Toolbox.Options
import AmbientDecls.Toolbox.Sed.Parse
import AmbientDecls.Toolbox.Sed.Run

/-!
# The stream editor

`sed` runs a script on the lines of its operands, which count as one stream or each on its own, and
may be changed in place.
-/

namespace AmbientDecls.Toolbox

namespace Sed

def options : List Opt :=
  [⟨'b', "binary", .nothing, true⟩, ⟨'E', "regexp-extended", .nothing, true⟩,
    ⟨'d', "debug", .nothing, false⟩, ⟨'i', "in-place", .perhaps, true⟩,
    ⟨'e', "expression", .value, true⟩, ⟨'f', "file", .value, true⟩,
    ⟨'l', "line-length", .value, true⟩, ⟨'z', "null-data", .nothing, true⟩,
    ⟨'z', "zero-terminated", .nothing, false⟩, ⟨'n', "quiet", .nothing, true⟩,
    ⟨'p', "posix", .nothing, false⟩, ⟨'n', "silent", .nothing, false⟩,
    ⟨'S', "sandbox", .nothing, false⟩, ⟨'s', "separate", .nothing, true⟩,
    ⟨'u', "unbuffered", .nothing, true⟩, ⟨'F', "follow-symlinks", .nothing, false⟩,
    ⟨'r', "", .nothing, true⟩]

/-- How `sed` is used, behind a line break. -/
def usage : Bytes :=
  ("\nUsage: sed [OPTION]... \x7bscript-only-if-no-other-script\x7d [input-file]...\n\n" ++
    "  -n, --quiet, --silent\n" ++
    "                 suppress automatic printing of pattern space\n" ++
    "      --debug\n" ++
    "                 annotate program execution\n" ++
    "  -e script, --expression=script\n" ++
    "                 add the script to the commands to be executed\n" ++
    "  -f script-file, --file=script-file\n" ++
    "                 add the contents of script-file to the commands to be executed\n" ++
    "  --follow-symlinks\n" ++
    "                 follow symlinks when processing in place\n" ++
    "  -i[SUFFIX], --in-place[=SUFFIX]\n" ++
    "                 edit files in place (makes backup if SUFFIX supplied)\n" ++
    "  -l N, --line-length=N\n" ++
    "                 specify the desired line-wrap length for the \x60l' command\n" ++
    "  --posix\n" ++
    "                 disable all GNU extensions.\n" ++
    "  -E, -r, --regexp-extended\n" ++
    "                 use extended regular expressions in the script\n" ++
    "                 (for portability use POSIX -E).\n" ++
    "  -s, --separate\n" ++
    "                 consider files as separate rather than as a single,\n" ++
    "                 continuous long stream.\n" ++
    "      --sandbox\n" ++
    "                 operate in sandbox mode (disable e/r/w commands).\n" ++
    "  -u, --unbuffered\n" ++
    "                 load minimal amounts of data from the input files and flush\n" ++
    "                 the output buffers more often\n" ++
    "  -z, --null-data\n" ++
    "                 separate lines by NUL characters\n" ++
    "      --help     display this help and exit\n" ++
    "      --version  output version information and exit\n\n" ++
    "If no -e, --expression, -f, or --file option is given, then the first\n" ++
    "non-option argument is taken as the sed script to interpret.  All\n" ++
    "remaining arguments are names of input files; if no input files are\n" ++
    "specified, then the standard input is read.\n").toList

/-- The parts of the script of a command line, and the operands that are left. -/
def gather (j : Job) (p : Parsed) : Except Bytes (Option (List Part × List Bytes)) := do
  let given := p.options.filter fun (c, _) => c = 'e' || c = 'f'
  if given.isEmpty then
    match p.operands with
    | [] => return none
    | script :: rest => return some ([⟨none, 1, script⟩], rest)
  let parts ← given.zipIdx.mapM fun ((c, value), i) =>
    if c = 'e' then
      pure ⟨none, ((given.take (i + 1)).countP (·.1 == 'e')), value⟩
    else if value = ['-'] then pure ⟨some value, 0, chomp '\n' j.stdin⟩
    else match j.read value with
      | .ok content => pure ⟨some value, 0, chomp '\n' content⟩
      | .error e =>
        throw ("couldn't open file ".toList ++ value ++ ": ".toList ++ e.description.toList)
  return some (parts, p.operands)

def Action.target? : Action → Option Bytes
  | .writeFile path | .writeFirst path => some path
  | .substitute s => s.target
  | _ => none

/-- The complaint that a file of a script cannot be written, if there is one. -/
def unwritable? (j : Job) (script : Script) : Option Bytes :=
  script.commands.toList.findSome? fun c =>
    match c.action.target? with
    | none => none
    | some path =>
      if "/dev/".toList.isPrefixOf path then none
      else match (j.files.write (Bytes.toText path) .empty).error? with
        | none => none
        | some e =>
          some ("sed: couldn't open file ".toList ++ path ++ ": ".toList ++ e.description.toList)

def linesIn (terminator : Char) (file content : Bytes) : List Line :=
  (linesOf terminator content).map fun line =>
    let bare := chomp terminator line
    { text := bare, ended := bare.length < line.length, file }

def marked (lines : List Line) : List Line :=
  let last := lines.length - 1
  lines.zipIdx.map fun (line, i) => { line with isFirst := i = 0, isLast := i = last }

def isDirectory (s : Source) : Bool :=
  match s.content with
  | .error .isADirectory => true
  | _ => false

/-- The sources that are read: a directory ends the run. -/
def upToDirectory (sources : List Source) : List Source :=
  let files := sources.takeWhile fun s => ! isDirectory s
  files ++ (sources.drop files.length).take 1

/-- The complaint that a source cannot be read. -/
def unreadable (inPlace : Bool) (name : Bytes) (e : OsError) : Bytes :=
  if e ≠ .isADirectory then
    "sed: can't read ".toList ++ name ++ ": ".toList ++ e.description.toList
  else if inPlace then "sed: couldn't edit ".toList ++ name ++ ": not a regular file".toList
  else "sed: read error on ".toList ++ name ++ ": ".toList ++ e.description.toList

/-- How much of a stream is read at once. -/
def blockSize : Nat := 4096

/-- The greatest number of steps that a script is followed for. -/
def mostSteps (script : Script) (lines : List Line) : Nat :=
  let size := (lines.map fun line => line.text.length + 1).foldl (· + ·) 1000
  size * (script.commands.size + 1) * 1000

/-- What a run of a script comes to. -/
structure Result where
  status : Option Nat
  output : Output
  files : List (Bytes × Output)
  complaint : Option Bytes
  left : List Line

def follow (e : Setting) (lines : List Line) : Result :=
  let (s, status) :=
    ({ input := lines } : State).run e (mostSteps e.script lines) none
  ⟨status, s.output, s.files, s.complaint, s.input⟩

/-- What is left of a stream when a script ends at a line: lines are read in blocks, and one byte
ahead. -/
def unreadOf (terminator : Char) (stream : Bytes) (left : Nat) : Bytes :=
  if left = 0 then []
  else
    let lines := linesOf terminator stream
    let read := ((lines.take (lines.length - left)).map List.length).foldl (· + ·) 1
    stream.drop ((read + blockSize - 1) / blockSize * blockSize)

end Sed

/-- What a script writes when it is run by itself. -/
def Sed.evaluated (find : Finder) (j : Job) (script : Bytes) : Bytes :=
  match find j.files ['s', 'h'] with
  | .ok tool =>
    (tool { j with args := [['-', 'c'], script], stdin := [], called := ['s', 'h'] }).stdout
  | .error _ => []

/-- Edits its operands. -/
def sed (find : Finder) : Tool := fun j =>
  match readOptions Sed.options true none {} j.args with
  | .error problem => j.refuse ("sed: ".toList ++ problem ++ Sed.usage) 1
  | .ok p =>
    match Sed.gather j p with
    | .error problem => j.refuse ("sed: ".toList ++ problem) 4
    | .ok none => j.refuse (Sed.usage.drop 1) 1
    | .ok (some (parts, operands)) =>
      let m : Sed.Manner := {
        regex := { extended := p.has 'E' || p.has 'r' }, zeroEnded := p.has 'z'
        sandboxed := p.has 'S' }
      match Sed.parse m parts with
      | .error (message, status) => j.refuse message status
      | .ok script =>
        if let some problem := Sed.unwritable? j script then j.refuse problem 4 else
        let terminator := if p.has 'z' then '\x00' else '\n'
        let e : Sed.Setting := {
          script, quiet := p.has 'n' || script.quiet, terminator
          lineWidth := ((p.last? 'l').bind number?).getD 70
          evaluate := Sed.evaluated find j
          read := fun path => if path = "/dev/stdin".toList then .ok j.stdin else j.read path }
        let files := if operands.isEmpty then [['-']] else operands
        let inPlace := p.has 'i'
        let sources := Sed.upToDirectory (j.sources files)
        let complaints := sources.filterMap fun s =>
          match s.content with
          | .ok _ => none
          | .error e => some (Sed.unreadable inPlace s.name e)
        let broken := sources.any Sed.isDirectory
        let readable := sources.filterMap fun s =>
          s.content.toOption.map fun content => Sed.linesIn terminator s.name content
        let written := fun (files : List (Bytes × Sed.Output)) =>
          files.reverse.map fun (path, o) => (path, o.bytes)
        let unread := if readsStream operands then [] else j.stdin
        if inPlace && operands.isEmpty then j.refuse "sed: no input files".toList 4
        else if inPlace then
          let results := readable.map fun lines =>
            ((lines.head?.map (·.file)).getD [], Sed.follow e (Sed.marked lines))
          let suffix := (p.last? 'i').getD []
          let kept := if suffix.isEmpty then [] else results.filterMap fun (name, _) =>
            (j.read name).toOption.map (name ++ suffix, ·)
          { status := .code (if broken then 4 else if complaints.isEmpty then 0 else 2)
            stderr := joinLines '\n' complaints
            written := kept ++ results.flatMap fun (name, r) =>
              written r.files ++ [(name, r.output.bytes)]
            unread }
        else
          let lines := if p.has 's' then readable.flatMap Sed.marked
            else Sed.marked readable.flatten
          let r := Sed.follow e lines
          let failed := r.complaint.elim [] fun message =>
            ["sed: -e expression #".toList ++ decimal (max 1 (parts.getLast?.elim 1 (·.number))) ++
              ", char 0: ".toList ++ message]
          { status := .code (match r.status with
              | none => 1
              | some 0 => if broken then 4 else if complaints.isEmpty then 0 else 2
              | some n => n % 256)
            stdout := r.output.bytes
            stderr := joinLines '\n' (complaints ++ failed)
            written := written r.files
            unread := if unread.isEmpty && operands.length < 2 then
              Sed.unreadOf terminator j.stdin r.left.length else unread }

end AmbientDecls.Toolbox
