import AmbientDecls.Files.OsError
import AmbientDecls.Files.Path
import AmbientDecls.Log.Logged
import AmbientDecls.Metadata.Wire

/-!
# Loading metadata

Metadata comes from the bytes of a stream or from files that are merged in order. Where a class
stands in more than one file it keeps the place of the first and has the contents of the last.
-/

namespace AmbientDecls

/-- Why the bytes of a source could not be had as text. -/
inductive ReadFault where
  | os (error : OsError)
  | notUtf8
deriving DecidableEq, Repr, Inhabited

def ReadFault.message : ReadFault → String
  | os error => error.message
  | notUtf8 => "stream did not contain valid UTF-8"

/-- Why metadata could not be loaded. -/
inductive LoadError where
  | unreadable (path : Path) (fault : ReadFault)
  | malformed (origin : Text) (cause : Json.Cause) (location : Json.Location)

namespace LoadError

def message : LoadError → String
  | unreadable path _ => "failed to read " ++ String.ofList path
  | malformed origin .. => "invalid metadata in " ++ String.ofList origin

def cause : LoadError → String
  | unreadable _ fault => fault.message
  | malformed _ cause location => cause.messageAt location

end LoadError

namespace Metadata

def ofBytes (origin : Text) (bytes : ByteArray) : Except LoadError Metadata :=
  match String.fromUTF8? bytes with
  | none => .error (.unreadable origin .notUtf8)
  | some s =>
    match ofJson s.toList with
    | .ok m => .ok m
    | .error fault => .error (.malformed origin fault.cause (fault.location s.toList))

/-- Loads from a stream whose unread bytes are `bytes`, and leaves what is still unread then. Bytes
that are text are used up, whatever they say; others stay. -/
def ofStream (origin : Text) (bytes : ByteArray) : Except LoadError Metadata × ByteArray :=
  (ofBytes origin bytes, if (String.fromUTF8? bytes).isSome then ByteArray.empty else bytes)

def ofFile (read : Path → Except OsError ByteArray) (path : Path) : Except LoadError Metadata :=
  match read path with
  | .error error => .error (.unreadable path (.os error))
  | .ok bytes => ofBytes path bytes

/-- The classes of a later source join those of earlier ones. -/
def merge (m later : Metadata) : Metadata :=
  ⟨m.classes.insertMany later.classes.entries⟩

/-- The keys of a later source that earlier ones have already. -/
def shared (m later : Metadata) : List String := later.classes.keys.filter m.classes.contains

/-- Reads the files in order and merges each into what came before. -/
def ofFilesFrom (read : Path → Except OsError ByteArray) (m : Metadata) :
    List Path → Logged LoadError Metadata
  | [] => .ok m
  | path :: rest =>
    match ofFile read path with
    | .error error => .error error
    | .ok later =>
      (ofFilesFrom read (m.merge later) rest).after
        (.loaded path later.classes.size ::
          (m.shared later).map fun key => .duplicateClass key path)

def ofFiles (read : Path → Except OsError ByteArray) (paths : List Path) :
    Logged LoadError Metadata :=
  ofFilesFrom read {} paths

end Metadata

end AmbientDecls
