import AmbientDecls.Files.OsError
import AmbientDecls.Files.Path

/-!
# File systems

A file system is a list of nodes under their places, which are lists of names from the root. Paths
are followed name by name as an operating system does it: a path may go on only from a directory,
and two dots lead to the directory above. A file is written by opening it, which leaves nothing of
what it held, and handing over the content, of which only a part may find room.
-/

namespace AmbientDecls

/-- Where a device sends what is written to it. -/
inductive Device where
  /-- Away, so that it is in no file and not on standard output. -/
  | sink
  | stdout
deriving DecidableEq, Repr, Inhabited

inductive Node where
  | file (content : ByteArray)
  | directory
  /-- A file that is there but cannot be read. -/
  | refused (error : OsError)
  /-- A device with what was written to it, of which nothing is read back. It is no regular file. -/
  | device (device : Device := .sink) (taken : ByteArray := .empty)

/-- A place in a file system, as the names on the way from the root. -/
abbrev Place := List Text

/-- What stands against writing at a place. -/
inductive Obstacle where
  /-- It cannot be opened. -/
  | closed (error : OsError)
  /-- It has room for so many bytes, and the error is that of the next one. -/
  | full (room : Nat) (error : OsError)
deriving DecidableEq, Repr, Inhabited

structure FileSystem where
  nodes : List (Place × Node) := []
  /-- The place where relative paths start. -/
  workingDirectory : Place := []
  obstacle : Place → Option Obstacle := fun _ => none

namespace FileSystem

/-- The node at a place; the root is a directory. -/
def node? (fs : FileSystem) (place : Place) : Option Node :=
  if place.isEmpty then some .directory else fs.nodes.lookup place

def isDirectoryAt (fs : FileSystem) (place : Place) : Bool :=
  match fs.node? place with
  | some .directory => true
  | _ => false

def step (fs : FileSystem) (place : Place) (piece : Text) : Except OsError Place :=
  match fs.node? place with
  | none => .error .notFound
  | some .directory =>
    .ok (if piece = [] || piece = ['.'] then place
      else if piece = ['.', '.'] then place.dropLast
      else place ++ [piece])
  | some _ => .error .notADirectory

/-- The place where a path starts. -/
def start (fs : FileSystem) (p : Path) : Place :=
  if p.isAbsolute then [] else fs.workingDirectory

/-- The place that a path leads to, which may be empty. -/
def follow (fs : FileSystem) (p : Path) : Except OsError Place :=
  p.pieces.foldlM fs.step (fs.start p)

/-- The node that a path leads to, with its place. -/
def find (fs : FileSystem) (p : Path) : Except OsError (Place × Node) :=
  if p.isEmpty then .error .notFound
  else match fs.follow p with
    | .error e => .error e
    | .ok place =>
      match fs.node? place with
      | none => .error .notFound
      | some node => .ok (place, node)

def pathExists (fs : FileSystem) (p : Path) : Bool := (fs.find p).isOk

/-- Whether a path leads to a regular file. -/
def isFile (fs : FileSystem) (p : Path) : Bool :=
  match fs.find p with
  | .ok (_, .file _) => true
  | .ok (_, .refused _) => true
  | _ => false

def isDirectory (fs : FileSystem) (p : Path) : Bool :=
  match fs.find p with
  | .ok (_, .directory) => true
  | _ => false

/-- The content of the file that a path leads to. -/
def read (fs : FileSystem) (p : Path) : Except OsError ByteArray :=
  match fs.find p with
  | .error e => .error e
  | .ok (_, .file content) => .ok content
  | .ok (_, .directory) => .error .isADirectory
  | .ok (_, .refused e) => .error e
  | .ok (_, .device ..) => .ok .empty

/-- Puts a node at a place, instead of what is there. -/
def put (fs : FileSystem) (place : Place) (node : Node) : FileSystem :=
  { fs with nodes := fs.nodes.filter (·.1 ≠ place) ++ [(place, node)] }

/-- The path without the slashes at its end. -/
def withoutSlashes (p : Path) : Path := (p.reverse.dropWhile (· == '/')).reverse

/-- The place of the file that a path opens for writing. Its directory must be there, and the file
need not be. -/
def openAt (fs : FileSystem) (p : Path) : Except OsError Place :=
  if p.isEmpty then .error .notFound
  else match fs.follow (withoutSlashes p) with
    | .error e => .error e
    | .ok place =>
      if (withoutSlashes p).length < p.length then .error .isADirectory
      else match fs.node? place, fs.obstacle place with
        | some .directory, _ => .error .isADirectory
        | _, some (.closed e) => .error e
        | _, _ => .ok place

/-- What finds room at a place, and the error if that is not all. -/
def fit (fs : FileSystem) (place : Place) (content : ByteArray) : ByteArray × Option OsError :=
  match fs.obstacle place with
  | some (.full room e) =>
    if content.size ≤ room then (content, none) else (content.extract 0 room, some e)
  | _ => (content, none)

/-- What is there after a write. -/
structure Written where
  files : FileSystem
  error? : Option OsError := none
  /-- Whether the content went to standard output. -/
  isShown : Bool := false

/-- Writes through a path, instead of what is there. If it fails half way, what found room stays. -/
def write (fs : FileSystem) (p : Path) (content : ByteArray) : Written :=
  match fs.openAt p with
  | .error e => { files := fs, error? := some e }
  | .ok place =>
    let (taken, error?) := fs.fit place content
    match fs.node? place with
    | some (.device .stdout before) =>
      { files := fs.put place (.device .stdout (before ++ content)), isShown := true }
    | some (.device .sink before) =>
      { files := fs.put place (.device .sink (before ++ taken)), error? }
    | _ => { files := fs.put place (.file taken), error? }

/-- Makes the directories on the way to a place that are not there. -/
def makeParents (fs : FileSystem) (place : Place) : FileSystem :=
  (List.range place.length).foldl
    (fun fs n =>
      let parent := place.take n
      if (fs.node? parent).isSome then fs else fs.put parent .directory)
    fs

/-- Adds a node at a path below the working directory, with the directories on the way. -/
def add (fs : FileSystem) (p : Path) (node : Node) : FileSystem :=
  let names := p.pieces.filter fun piece => piece != [] && piece != ['.']
  let place := fs.start p ++ names
  (fs.makeParents place).put place node

/-- The names below a place, sorted so that each directory comes right before what it holds. -/
def below (fs : FileSystem) (place : Place) : List (List Text) :=
  (fs.nodes.filterMap fun (q, _) =>
    if place.isPrefixOf q && place.length < q.length then some (q.drop place.length) else none)
    |>.mergeSort fun a b => ! List.lex b a Text.comesBefore

end FileSystem

end AmbientDecls
