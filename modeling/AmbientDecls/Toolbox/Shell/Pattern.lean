import AmbientDecls.Files.System
import AmbientDecls.Toolbox.Class

/-!
# Patterns of the shell

Patterns match whole texts, the fronts and ends of values, and the names of files. A byte that was
quoted stands for itself.
-/

namespace AmbientDecls.Toolbox.Shell

abbrev Mark := Char × Bool

/-- What a pattern is made of. -/
inductive Wild where
  | byte (c : Char)
  | any
  | many
  | set (inverted : Bool) (ranges : List (Char × Char))
deriving DecidableEq, Repr, Inhabited

namespace Wild

/-- The name of a class up to its closing signs, and what follows them. -/
def className (read : Bytes) : List Mark → Option (Bytes × List Mark)
  | (':', true) :: (']', true) :: rest => some (read.reverse, rest)
  | (c, _) :: rest => className (c :: read) rest
  | [] => none

/-- The ranges of a set up to its closing bracket, and what follows; nothing if it is not closed. -/
def members (isFirst : Bool) : (fuel : Nat) → List Mark →
    Option (List (Char × Char) × List Mark)
  | 0, _ => none
  | _, [] => none
  | fuel + 1, (c, active) :: rest =>
    let goOn := fun (found : List (Char × Char)) (rest : List Mark) =>
      (members false fuel rest).map fun (ranges, rest) => (found ++ ranges, rest)
    if c = ']' && active && ! isFirst then some ([], rest)
    else
      let class? : Option ((Char → Bool) × List Mark) :=
        match active, c, rest with
        | true, '[', (':', true) :: inner =>
          (className [] inner).bind fun (name, after) =>
            (classOf? name).map fun isMember => (isMember, after)
        | _, _, _ => none
      match class?, rest with
      | some (isMember, after), _ => goOn ((allBytes.filter isMember).map fun c => (c, c)) after
      | none, ('-', true) :: (last, lastActive) :: after =>
        if last = ']' && lastActive then goOn [(c, c)] rest else goOn [(c, last)] after
      | none, _ => goOn [(c, c)] rest

/-- A pattern from the marks that it is written in. A set that is not closed stands for itself. -/
def read : (fuel : Nat) → List Mark → List Wild
  | 0, _ => []
  | _, [] => []
  | fuel + 1, (c, active) :: rest =>
    if ! active then byte c :: read fuel rest
    else match c with
      | '?' => any :: read fuel rest
      | '*' => many :: read fuel rest
      | '[' =>
        let (inverted, inner) := match rest with
          | ('!', true) :: inner => (true, inner)
          | inner => (false, inner)
        match members true (inner.length + 1) inner with
        | some (ranges, after) => set inverted ranges :: read fuel after
        | none => byte '[' :: read fuel rest
      | '\\' =>
        match rest with
        | (d, _) :: after => byte d :: read fuel after
        | [] => [byte '\\']
      | c => byte c :: read fuel rest

def ofMarks (marks : List Mark) : List Wild := read (marks.length + 1) marks

def holds (w : Wild) (c : Char) : Bool :=
  match w with
  | byte d => c == d
  | any | many => true
  | set inverted ranges => (ranges.any fun (first, last) => first ≤ c && c ≤ last) != inverted

/-- A text and all that is left of it when bytes are taken off its front. -/
def ends : Bytes → List Bytes
  | [] => [[]]
  | c :: cs => (c :: cs) :: ends cs

/-- What may be left of a text behind a pattern. -/
def remains : List Wild → Bytes → List Bytes
  | [], t => [t]
  | many :: rest, t => ((ends t).flatMap fun u => remains rest u).eraseDups
  | w :: rest, t =>
    match t with
    | [] => []
    | c :: cs => if w.holds c then remains rest cs else []

def isMatch (p : List Wild) (t : Bytes) : Bool := (remains p t).contains []

/-- A text without what the pattern matches at its front. -/
def trimFront (p : List Wild) (longest : Bool) (t : Bytes) : Bytes :=
  let lengths := (remains p t).map List.length
  let best := if longest then lengths.min? else lengths.max?
  match best with
  | some n => t.drop (t.length - n)
  | none => t

/-- A text without what the pattern matches at its end. -/
def trimBack (p : List Wild) (longest : Bool) (t : Bytes) : Bytes :=
  let cuts := (List.range (t.length + 1)).filter fun n => isMatch p (t.drop n)
  let best := if longest then cuts.head? else cuts.getLast?
  match best with
  | some n => t.take n
  | none => t

/-- Whether a pattern has signs in it. -/
def isWild (p : List Wild) : Bool :=
  p.any fun w => match w with
    | byte _ => false
    | _ => true

def plain (p : List Wild) : Bytes :=
  p.filterMap fun w => match w with
    | byte c => some c
    | _ => none

end Wild

/-- Whether one text comes before another in the order of their bytes. -/
def comesBefore (a b : Bytes) : Bool := List.lex a b fun c d => c < d

def namesIn (fs : FileSystem) (path : Bytes) : List Bytes :=
  match fs.find (Bytes.toText (if path.isEmpty then ['.'] else path)) with
  | .ok (place, .directory) =>
    (fs.nodes.filterMap fun (q, _) =>
      if place.isPrefixOf q && q.length = place.length + 1 then q.getLast?.map Bytes.ofText
      else none).mergeSort fun a b => ! comesBefore b a
  | _ => []

/-- The names in marked bytes, each with the slashes before it. -/
def components : (fuel : Nat) → List Mark → List (Bytes × List Mark)
  | 0, _ => []
  | _, [] => []
  | fuel + 1, marks =>
    let slashes := marks.takeWhile (·.1 == '/')
    let behind := marks.drop slashes.length
    let name := behind.takeWhile (·.1 != '/')
    (slashes.map (·.1), name) :: components fuel (behind.drop name.length)

/-- The paths that the rest of a pattern leads to from a path on. -/
def pathsFrom (fs : FileSystem) (path : Bytes) : List (Bytes × List Mark) → List Bytes
  | [] => if fs.pathExists (Bytes.toText path) then [path] else []
  | (slashes, name) :: rest =>
    let pattern := Wild.ofMarks name
    let front := path ++ slashes
    if ! Wild.isWild pattern then pathsFrom fs (front ++ name.map (·.1)) rest
    else
      let shown := fun (n : Bytes) => n.head? != some '.' || name.head?.any (·.1 == '.')
      ((namesIn fs front).filter fun n => shown n && Wild.isMatch pattern n).flatMap fun n =>
        pathsFrom fs (front ++ n) rest

/-- The paths that marked bytes match, in order; the bytes alone if there are none. -/
def paths (fs : FileSystem) (marks : List Mark) : List Bytes :=
  if ! Wild.isWild (Wild.ofMarks marks) then [marks.map (·.1)]
  else match pathsFrom fs [] (components (marks.length + 1) marks) with
    | [] => [marks.map (·.1)]
    | found => found.mergeSort fun a b => ! comesBefore b a

end AmbientDecls.Toolbox.Shell
