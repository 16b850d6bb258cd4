import AmbientDecls.Toolbox.Columns
import AmbientDecls.Toolbox.Copy
import AmbientDecls.Toolbox.Count
import AmbientDecls.Toolbox.Grep
import AmbientDecls.Toolbox.Order.Compare
import AmbientDecls.Toolbox.Order.Sort
import AmbientDecls.Toolbox.Portion
import AmbientDecls.Toolbox.Printf.Basic
import AmbientDecls.Toolbox.Sed.Tool
import AmbientDecls.Toolbox.Shell.Tool
import AmbientDecls.Toolbox.Translate

/-!
# The catalog of tools

Which program a name stands for, and what comes of running it on a document. A tool may be named
alone or by a path to it; no other file can be run.
-/

namespace AmbientDecls.Toolbox

def basicTools : List (Text × Tool) :=
  [("cat", cat), ("tee", tee), ("true", succeed), ("false", giveUp), ("head", head),
    ("tail", tail), ("tac", tac), ("rev", rev), ("sort", sort), ("uniq", uniq), ("wc", wc),
    ("nl", nl), ("cut", cut), ("paste", paste), ("expand", expand), ("unexpand", unexpand),
    ("fold", fold), ("tr", tr), ("echo", echo), ("printf", printf), ("grep", grep)].map
      fun (name, tool) => (name.toList, tool)

/-- A tool that is given some arguments first. -/
def withArgs (tool : Tool) (args : List String) : Tool := fun j =>
  tool { j with args := args.map String.toList ++ j.args }

/-- The tools that are other ones called with an argument. -/
def variants : List (Text × Tool) :=
  [("egrep", withArgs grep ["-E"]), ("fgrep", withArgs grep ["-F"])].map
    fun (name, tool) => (name.toList, tool)

def shellNames : List Text := ["sh", "dash"].map String.toList

def directories : List Place := [["bin".toList], ["usr".toList, "bin".toList]]

def toolNames : List Text :=
  "sed".toList :: (basicTools ++ variants).map Prod.fst ++ shellNames

def install (fs : FileSystem) : FileSystem :=
  directories.foldl
    (fun fs d =>
      toolNames.foldl
        (fun fs name => (fs.makeParents (d ++ [name])).put (d ++ [name]) (.file .empty)) fs)
    fs

/-- The name of the tool that a program stands for, or why there is none. A name alone is looked up
among the tools; at the end of a path there must be one of them. -/
def resolve (fs : FileSystem) (program : Text) : Except OsError Text :=
  let known := fun (name : Text) (otherwise : OsError) =>
    if toolNames.contains name then .ok name else .error otherwise
  if program.elem '/' then
    match (install fs).find program with
    | .error e => .error e
    | .ok (place, _) =>
      if directories.contains place.dropLast then known (place.getLast?.getD []) .permissionDenied
      else .error .permissionDenied
  else if program = ['.'] || program = ['.', '.'] then .error .permissionDenied
  else known program .notFound

/-- The path of a tool that is called by its name, which may be a path. -/
def pathOf? (name : Text) : Option Text :=
  if name.contains '/' then (resolve {} name).toOption.map fun _ => name
  else if toolNames.contains name then some ("/usr/bin/".toList ++ name)
  else none

/-- The names of the tools that do not tell how they are called. -/
def plainNames : List Text := ["rev", "echo", "egrep", "fgrep"].map String.toList

/-- The tool with a name. A shell may run tools in turn, and so may `sed`, up to a depth. -/
def toolNamed (depth : Nat) (name : Text) : Tool :=
  match depth with
  | 0 => giveUp
  | depth + 1 =>
    let find : Finder := fun fs program => (resolve fs program).map (toolNamed depth)
    if shellNames.contains name then shell { find, pathOf? }
    else
      let tool := if name = "sed".toList then sed find
        else ((basicTools ++ variants).lookup name).getD giveUp
      if plainNames.contains name then tool else underName name (name != "grep".toList) tool

/-- How deep tools may run one another. -/
def deepestRun : Nat := 20

/-- The variables that programs are given. -/
def environment : List (Bytes × Bytes) :=
  [("HOME", "/root"),
    ("PATH", "/usr/local/sbin:/usr/local/bin:/usr/sbin:/usr/bin:/sbin:/bin")].map
      fun (name, value) => (name.toList, value.toList)

/-- How much a program may leave unread without the writer noticing. -/
def pipeCapacity : Nat := 65536

/-- What comes of running a command on a document, with the given files around. -/
def execute (fs : FileSystem) (command : Command) (document : Text) : Execution :=
  match resolve fs command.program with
  | .error e => .notStarted e
  | .ok name =>
    let ended := toolNamed deepestRun name {
      args := command.args.map Bytes.ofText, stdin := Bytes.ofText document, files := fs
      called := Bytes.ofText command.program, environment }
    .ended ended.status (Bytes.toArray ended.stdout) (Bytes.toArray ended.stderr)
      (if ended.unread.length > pipeCapacity then some .brokenPipe else none)

end AmbientDecls.Toolbox
