import AmbientDecls.CommandLine.Options
import AmbientDecls.Declaration.Events
import AmbientDecls.Files.Expand
import AmbientDecls.Pipeline.Error

/-!
# Runs

A run expands the patterns, loads the metadata, declares it, formats the document and writes it.
The first of these that fails ends the run. The document is complete before any of it goes out, so
that only writing itself can leave a part of it.
-/

namespace AmbientDecls

/-- What a run finds around it. -/
structure Host where
  files : FileSystem
  stdin : ByteArray
  /-- What comes of running a command on a document. -/
  execute : Command → Text → Execution

/-- The origin of what is read from standard input. -/
def stdinOrigin : Text := "<stdin>".toList

/-- Adds the files of each pattern that are not there yet. -/
def expandFrom (fs : FileSystem) (found : List Path) : List Text → Logged RunError (List Path)
  | [] => .ok found
  | pattern :: rest =>
    match fs.filesFor pattern with
    | .error fault => .error (.badPattern pattern fault)
    | .ok paths =>
      (expandFrom fs (paths.foldl Path.addNew found) rest).after
        (if paths.isEmpty then [.noFilesMatched pattern] else [])

/-- The files that patterns stand for, in order and each once; there must be one. -/
def expandPatterns (fs : FileSystem) (patterns : List Text) : Logged RunError (List Path) :=
  (expandFrom fs [] patterns).bind fun paths =>
    if paths.isEmpty then .error (.noInputFiles patterns) else .ok paths

namespace Options

/-- The metadata that a command line asks for. -/
def load (o : Options) (host : Host) : Logged RunError Metadata :=
  if o.files.isEmpty then
    (Logged.ofExcept (Metadata.ofBytes stdinOrigin host.stdin)).mapError .load
  else
    (expandPatterns host.files o.files).bind fun paths =>
      (Metadata.ofFiles host.files.read paths).mapError .load

def moduleOptions (o : Options) : ModuleOptions :=
  ⟨String.ofList o.moduleName, String.ofList o.implicitBase⟩

/-- How the document is laid out. -/
def layoutOptions (o : Options) : Layout.Options where
  indentSize := o.indentSize
  convertTabsToSpaces := ! o.useTabs
  replaceLineEndings := false

/-- Formats the raw document as the command line asks. -/
def format (o : Options) (execute : Command → Text → Execution) (raw : Text) :
    Logged RunError Text :=
  if o.noFormat then .ok raw
  else match o.formatter with
    | none => .ofExcept ((layout o.layoutOptions raw).mapError fun fault => .format (.layout fault))
    | some line =>
      match Command.ofLine? line with
      | none => .error .noFormatterProgram
      | some command =>
        (Logged.ofExcept
          ((command.outcome (execute command raw)).mapError RunError.format)).after
          [.runningFormatter command.program command.args]

/-- The document that a command line asks for. -/
def document (o : Options) (host : Host) : Logged RunError Text :=
  (o.load host).bind fun m =>
    let raw := (m.declaration o.moduleOptions).text
    (o.format host.execute raw).after (m.events ++ [.emitted m.classes.size raw.byteSize])

end Options

/-- What a run leaves behind. -/
structure Outcome where
  exitCode : Nat
  stdout : Text
  /-- What is shown of the error, if there was one. -/
  report : Text
  events : List Event
  files : FileSystem

def Outcome.failed (files : FileSystem) (events : List Event) (e : RunError) : Outcome :=
  ⟨1, [], e.report, events, files⟩

/-- Runs the program on a command line that could be read. -/
def run (o : Options) (host : Host) : Outcome :=
  let r := o.document host
  match r.result with
  | .error e => .failed host.files r.events e
  | .ok text =>
    match o.output with
    | none => ⟨0, text, [], r.events, host.files⟩
    | some path =>
      let w := host.files.write path (String.ofList text).toUTF8
      match w.error? with
      | some e => .failed w.files r.events (.write path e)
      | none => ⟨0, if w.isShown then text else [], [], r.events, w.files⟩

end AmbientDecls
