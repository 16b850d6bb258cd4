import AmbientDecls.Files.Pattern
import AmbientDecls.Files.System

/-!
# Expansion of patterns

The paths that a pattern stands for in a file system, sorted name by name. A pattern that is the
path of a file stands for that file even if it has wildcards.
-/

namespace AmbientDecls

namespace Pattern

/-- The path of a literal piece inside a directory, if it leads anywhere. Inside the working
directory names stand alone. -/
def enter (fs : FileSystem) (p : Path) (name : Text) : Option Path :=
  let next := if p.isDot then name else p.join name
  let leads := if name = ['.'] || name = ['.', '.'] then fs.isDirectory p else fs.pathExists next
  if leads then some next else none

/-- The entries of a directory with their names, in order. If `deep`, also the entries of the
directories among them and so on, each right after the directory that it is in. -/
def entries (fs : FileSystem) (deep : Bool) (p : Path) : List (Path × Text) :=
  match fs.find p with
  | .ok (place, .directory) =>
    ((fs.below place).filter fun names => deep || names.length == 1).map fun names =>
      (names.foldl Path.join (if p.isDot then [] else p), names.getLast?.getD [])
  | _ => []

/-- The two names that every directory has for itself and the one above, where a piece that
starts with a dot matches them. -/
def dotNames (fs : FileSystem) (p : Path) (piece : List Token) : List Path :=
  if fs.isDirectory p && piece.head? == some (.char '.') then
    ([['.', '.'], ['.']].filter (matchesName piece)).map p.join
  else []

/-- The paths that the pieces of a pattern stand for inside `p`. -/
def walk (fs : FileSystem) (onlyDirectories : Bool) : List (List Token) → Path → List Path
  | [], p => if onlyDirectories && ! fs.isDirectory p then [] else [p]
  | [.anyDepth] :: [.anyDepth] :: rest, p => walk fs onlyDirectories ([.anyDepth] :: rest) p
  | [.anyDepth] :: [], p => ((entries fs true p).map Prod.fst).filter fs.isDirectory
  | [.anyDepth] :: piece :: rest, p =>
    (entries fs true p).flatMap fun (q, name) =>
      if matchesName piece name then walk fs onlyDirectories rest q else []
  | piece :: rest, p =>
    match literal? piece with
    | some name =>
      match enter fs p name with
      | some q => walk fs onlyDirectories rest q
      | none => []
    | none =>
      (dotNames fs p piece).flatMap (walk fs onlyDirectories rest) ++
        (entries fs false p).flatMap fun (q, name) =>
          if matchesName piece name then walk fs onlyDirectories rest q else []

/-- The paths that match a pattern. -/
def found (fs : FileSystem) (pattern : Pattern) : List Path :=
  walk fs pattern.onlyDirectories pattern.pieces (if pattern.isAbsolute then ['/'] else ['.'])

end Pattern

/-- The files that a pattern stands for: itself if it is the path of a file, and otherwise the
files among its matches. -/
def FileSystem.filesFor (fs : FileSystem) (pattern : Text) : Except Pattern.Fault (List Path) :=
  if fs.isFile pattern then .ok [pattern]
  else (Pattern.parse pattern).map fun p => (p.found fs).filter fs.isFile

end AmbientDecls
