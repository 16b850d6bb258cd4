import AmbientDecls.Log.Filter
import AmbientDecls.Pipeline.Run
import AmbientDecls.Toolbox.Catalog

/-!
# The program

The outer layer: it looks at the files that a command line speaks of, hands them to the run as a
file system, and does what the outcome says. External formatters are tools of the catalog.
-/

namespace AmbientDecls.Main

/-- The name of the program in log filters and messages. -/
def programName : Text := "docdts".toList

/-- The variable that asks for a log filter. -/
def filterVariable : String := "RUST_LOG"

def pathOf (place : Place) : String :=
  String.ofList ('/' :: Text.join ['/'] place)

/-- The error of the operating system behind an error of a file operation. -/
def osError : IO.Error → OsError
  | .alreadyExists _ code details | .otherError code details | .resourceBusy code details
  | .resourceVanished code details | .unsupportedOperation code details
  | .hardwareFault code details | .unsatisfiedConstraints code details
  | .illegalOperation code details | .protocolError code details | .timeExpired code details
  | .interrupted _ code details | .noFileOrDirectory _ code details
  | .invalidArgument _ code details | .permissionDenied _ code details
  | .resourceExhausted _ code details | .inappropriateType _ code details
  | .noSuchThing _ code details => .ofCode code.toNat details
  | .unexpectedEof => .other "unexpected end of file"
  | .userError description => .other description

/-- The places of standard output. -/
def standardOutput : List Place :=
  [["dev", "stdout"], ["dev", "fd", "1"], ["proc", "self", "fd", "1"]].map (·.map String.toList)

/-- Puts what is at a place into the file system, without its content. -/
def probe (fs : FileSystem) (place : Place) : IO FileSystem := do
  try
    let info ← ((← IO.currentDir) / pathOf place).metadata
    match info.type with
    | .dir => return fs.put place .directory
    | .file => return fs.put place (.file .empty)
    | _ => return fs.put place (.device (if standardOutput.contains place then .stdout else .sink))
  catch _ => return fs

/-- Probes the places that the pieces of a path lead through. -/
def probeAlong (fs : FileSystem) (start : Place) (pieces : List Text) :
    IO (FileSystem × Place) := do
  let mut fs := fs
  let mut place := start
  for piece in pieces do
    match fs.step place piece with
    | .ok next =>
      place := next
      fs ← probe fs place
    | .error _ => return (fs, place)
  return (fs, place)

/-- Whether a piece of a pattern may have to be compared with the names in a directory. -/
def hasWildcard (piece : Text) : Bool := piece.any fun c => c == '*' || c == '?' || c == '['

/-- Puts what is below a directory into the file system, down to a depth. -/
partial def scan (fs : FileSystem) (place : Place) (depth : Option Nat) : IO FileSystem := do
  if depth == some 0 || ! fs.isDirectoryAt place then return fs
  let mut fs := fs
  try
    for entry in ← ((← IO.currentDir) / pathOf place).readDir do
      let inside := place ++ [entry.fileName.toList]
      fs ← probe fs inside
      fs ← scan fs inside (depth.map (· - 1))
    return fs
  catch _ => return fs

/-- Puts what a pattern may stand for into the file system. -/
def look (fs : FileSystem) (pattern : Text) : IO FileSystem := do
  let fixed := (Path.pieces pattern).takeWhile (! hasWildcard ·)
  let wild := (Path.pieces pattern).dropWhile (! hasWildcard ·)
  let (fs, place) ← probeAlong fs (fs.start pattern) fixed
  let (fs, _) ← probeAlong fs place wild
  if wild.isEmpty then return fs
  scan fs place (if wild.contains ['*', '*'] then none else some wild.length)

/-- Reads the file at a path into the file system, if there is one. -/
def fetch (fs : FileSystem) (path : Path) : IO FileSystem := do
  match fs.find path with
  | .ok (place, .file _) =>
    try
      return fs.put place (.file (← IO.FS.readBinFile ((← IO.currentDir) / pathOf place)))
    catch e => return fs.put place (.refused (osError e))
  | _ => return fs

/-- The working directory and the directories above it. -/
def surroundings : IO FileSystem := do
  let here : Path := (← IO.currentDir).toString.toList
  let fs : FileSystem := { workingDirectory := here.pieces.filter (! ·.isEmpty) }
  return fs.add ['.'] .directory

/-- The file system that a run works on: everything that its command line speaks of. -/
def filesFor (o : Options) : IO FileSystem := do
  let mut fs ← surroundings
  for pattern in o.files do
    fs ← look fs pattern
  for path in (expandPatterns fs o.files).result.toOption.getD [] do
    fs ← fetch fs path
  for word in (o.formatter.map Text.words).getD [] do
    fs ← look fs word
    fs ← fetch fs word
  for path in o.output.toList do
    fs ← look fs path
  return fs

/-- Does to the file at the path of the command line what the run did to it, and returns the error
if that fails. Devices are handed what the run handed to them. -/
def deliver (o : Options) (outcome : Outcome) : IO (Option RunError) := do
  for path in o.output.toList do
    let content? := match outcome.files.find path with
      | .ok (_, .file content) | .ok (_, .device .sink content) => some content
      | _ => none
    if let some content := content? then
      try
        let handle ← IO.FS.Handle.mk ((← IO.currentDir) / String.ofList path) .write
        handle.write content
        -- What is not flushed is written when nobody asks for errors any more.
        handle.flush
      catch e => return some (.write path (osError e))
  return none

/-- The bytes of a stream up to its end, after those in `seen`. -/
partial def readAll (stream : IO.FS.Stream) (seen : ByteArray) : IO ByteArray := do
  let block ← stream.read 65536
  if block.isEmpty then return seen else readAll stream (seen ++ block)

/-- Runs a command line that could be read. -/
def start (o : Options) : IO UInt32 := do
  let fs ← filesFor o
  let stdin ← if o.files.isEmpty then readAll (← IO.getStdin) .empty else pure .empty
  let outcome := run o ⟨fs, stdin, Toolbox.execute fs⟩
  let filter := chooseFilter (← IO.getEnv filterVariable) o.verbosity
  for line in filter.lines programName outcome.events do
    IO.eprintln (String.ofList line)
  if outcome.exitCode ≠ 0 then
    IO.eprint (String.ofList outcome.report)
    return outcome.exitCode.toUInt32
  IO.print (String.ofList outcome.stdout)
  match ← deliver o outcome with
  | none => return 0
  | some e =>
    IO.eprint (String.ofList e.report)
    return 1

/-- How the program is used. -/
def usage : String :=
  "Usage: docdts [FILES]... [-o FILE] [-m NAME] [--implicit-base NAME]\n" ++
    "         [--indent-size N] [--use-tabs] [--formatter COMMAND | --no-format] [-v]...\n"

end AmbientDecls.Main

/-- Reads the command line and runs it. -/
def main (args : List String) : IO UInt32 := do
  match AmbientDecls.Options.parse (args.map String.toList) with
  | .ok o => AmbientDecls.Main.start o
  | .error .helpRequested =>
    IO.print AmbientDecls.Main.usage
    return 0
  | .error _ =>
    IO.eprint AmbientDecls.Main.usage
    return 2
