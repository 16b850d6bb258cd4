import AmbientDecls.Toolbox.Class
import AmbientDecls.Toolbox.Options

/-!
# Translating bytes

`tr` replaces, deletes and joins bytes. What it works on are two strings that are made of bytes,
ranges, classes and repeated bytes.
-/

namespace AmbientDecls.Toolbox

namespace Translate

/-- A byte of a string, and whether it stood behind a backslash. -/
abbrev Marked := Char × Bool

def unescape : (fuel : Nat) → Bytes → List Marked
  | 0, _ => []
  | _, [] => []
  | _, ['\\'] => [('\\', false)]
  | fuel + 1, '\\' :: c :: rest =>
    match octal? c with
    | some d =>
      let (n, after) := digits octal? 8 d 2 rest
      if 255 < n then
        (Char.ofNat (n / 8), true) :: unescape fuel (rest.drop 1)
      else (Char.ofNat n, true) :: unescape fuel after
    | none =>
      let plain := match c with
        | 'a' => '\x07'
        | 'b' => '\x08'
        | 'f' => '\x0c'
        | 'n' => '\n'
        | 'r' => '\r'
        | 't' => '\t'
        | 'v' => '\x0b'
        | c => c
      (plain, true) :: unescape fuel rest
  | fuel + 1, c :: rest => (c, false) :: unescape fuel rest

inductive Element where
  | byte (c : Char)
  | range (first last : Char)
  | class (name : Bytes) (members : Bytes)
  | equivalent (c : Char)
  /-- A byte so many times, or as often as it takes. -/
  | repeated (c : Char) (count : Option Nat)
deriving DecidableEq, Repr, Inhabited

def shown (c : Char) : Bytes :=
  if c = '\\' then ['\\', '\\'] else if isShown c then [c] else escapedByte c

/-- What stands before a closing sign of two bytes, and what follows it. -/
def closed? (sign : Char) : List Marked → Option (List Marked × List Marked)
  | a :: b :: rest =>
    if a = (sign, false) && b = (']', false) then some ([], rest)
    else (closed? sign (b :: rest)).map fun (inner, rest) => (a :: inner, rest)
  | _ => none

/-- Whether a repeat count and its bracket follow. -/
def isCounted : List Marked → Bool
  | ('*', false) :: rest =>
    (rest.dropWhile fun (c, escaped) => c.isDigit && ! escaped).head? = some (']', false)
  | _ => false

/-- A repeated byte behind its opening bracket, and what follows it. -/
def repeat? : List Marked → Option (Except Bytes (Element × List Marked))
  | (c, _) :: ('*', false) :: rest =>
    let count := rest.takeWhile fun (c, escaped) => ! escaped && c != ']'
    match rest.drop count.length with
    | (']', false) :: after =>
      let figures := count.map Prod.fst
      let n := match figures with
        | [] => some none
        | '0' :: _ =>
          if figures.all fun c => (octal? c).isSome then
            some (some (digits octal? 8 0 figures.length figures).1)
          else none
        | _ => (number? figures).map some
      match n with
      | none =>
        some (.error ("invalid repeat count ".toList ++ quoted figures ++
          " in [c*n] construct".toList))
      | some (some 0) => some (.ok (.repeated c none, after))
      | some count => some (.ok (.repeated c count, after))
    | _ => none
  | _ => none

/-- The element that starts with a bracket, if one does. -/
def bracketed? (rest : List Marked) : Except Bytes (Option (Element × List Marked)) :=
  let counted := match repeat? rest with
    | none => .ok none
    | some (.ok found) => .ok (some found)
    | some (.error e) => .error e
  match rest with
  | (':', false) :: inner =>
    match closed? ':' inner with
    | none => counted
    | some ([], _) => .error "missing character class name '[::]'".toList
    | some (name, after) =>
      let name := name.map Prod.fst
      match classOf? name with
      | some isMember => .ok (some (.class name (allBytes.filter isMember), after))
      | none =>
        if isCounted inner then counted
        else .error ("invalid character class ".toList ++ quoted name)
  | ('=', false) :: inner =>
    match closed? '=' inner with
    | none => counted
    | some ([], _) => .error "missing equivalence class character '[==]'".toList
    | some ([(c, _)], after) => .ok (some (.equivalent c, after))
    | some (name, _) =>
      if isCounted inner then counted
      else .error (name.map Prod.fst ++
        ": equivalence class operand must be a single character".toList)
  | _ => counted

def elements : (fuel : Nat) → List Marked → Except Bytes (List Element)
  | 0, _ => .ok []
  | fuel + 1, t => do
    match t with
    | a :: b :: c :: rest =>
      let found ← if a = ('[', false) then bracketed? (b :: c :: rest) else pure none
      match found with
      | some (e, after) => return e :: (← elements fuel after)
      | none =>
        if b = ('-', false) then
          if c.1 < a.1 then
            throw ("range-endpoints of '".toList ++ shown a.1 ++ '-' :: shown c.1 ++
              "' are in reverse collating sequence order".toList)
          return .range a.1 c.1 :: (← elements fuel rest)
        return .byte a.1 :: (← elements fuel (b :: c :: rest))
    | few => return few.map fun (c, _) => .byte c

def parse (argument : Bytes) : Except Bytes (List Element) :=
  elements (argument.length + 1) (unescape (argument.length + 1) argument)

/-- The bytes of an element; one that is repeated as often as it takes is so `most` times. -/
def Element.bytes (most : Nat) : Element → Bytes
  | .byte c => [c]
  | .range first last => allBytes.filter fun c => first ≤ c && c ≤ last
  | .class _ members => members
  | .equivalent c => [c]
  | .repeated c count => List.replicate (count.getD most) c

def bytesOf (most : Nat) (string : List Element) : Bytes := string.flatMap (Element.bytes most)

def Element.isClass : Element → Bool
  | .class .. => true
  | _ => false

def Element.isCase : Element → Bool
  | .class name _ => name = "upper".toList || name = "lower".toList
  | _ => false

/-- Whether an element is a byte that is repeated as often as it takes. -/
def Element.isOpen : Element → Bool
  | .repeated _ none => true
  | _ => false

/-- The places where the classes of letters in one case start. -/
def casePlaces (place : Nat) : List Element → List Nat
  | [] => []
  | e :: rest =>
    (if e.isCase then [place] else []) ++ casePlaces (place + (e.bytes 0).length) rest

/-- What is done to a stream. -/
structure Plan where
  complement : Bool := false
  delete : Bool := false
  squeeze : Bool := false
  truncate : Bool := false

/-- What a byte becomes, by number, and which bytes are written once only in a row. -/
structure Table where
  become : Array (Option Char)
  once : Array Bool

namespace Plan

/-- The bytes that the first string stands for. -/
def domain (p : Plan) (first : List Element) : Bytes :=
  let named := bytesOf 0 first
  if p.complement then allBytes.filter (! named.contains ·) else named

/-- The first string's bytes and those that they become in turn, or what is wrong with the
strings. -/
def images (p : Plan) (first second : List Element) : Except Bytes (Bytes × Bytes) := do
  let domain := p.domain first
  let most := domain.length - (bytesOf 0 second).length
  let image := bytesOf most second
  if 1 < second.countP Element.isOpen then
    throw "only one [c*] repeat construct may appear in string2".toList
  if second.any fun e => e matches .equivalent _ then
    throw "[=c=] expressions may not appear in string2 when translating".toList
  if second.any fun e => e.isClass && ! e.isCase then
    throw ("when translating, the only character classes that may appear in\n" ++
      "string2 are 'upper' and 'lower'").toList
  if ! p.complement &&
      ! (casePlaces 0 second).all fun n => (casePlaces 0 first).contains n then
    throw "misaligned [:upper:] and/or [:lower:] construct".toList
  let longer := image.length < domain.length
  if longer && ! p.truncate then
    if image.isEmpty then throw "when not truncating set1, string2 must be non-empty".toList
    if (second.getLast?.map Element.isClass).getD false then
      throw ("when translating with string1 longer than string2,\n" ++
        "the latter string must not end with a character class").toList
  let filled := image ++
    (if longer && ! p.truncate then
      List.replicate (domain.length - image.length) (image.getLast?.getD ' ') else [])
  if p.complement && first.any Element.isClass &&
      ! (filled.length = domain.length && filled.all fun c => some c = filled.head?) then
    throw ("when translating with complemented character classes,\n" ++
      "string2 must map all characters in the domain to one").toList
  return (domain, filled)

def table (p : Plan) (first : List Element) (second : Option (List Element)) :
    Except Bytes Table := do
  if first.any Element.isOpen then
    throw "the [c*] repeat construct may not appear in string1".toList
  let flags := fun (set : Bytes) => (allBytes.map set.contains).toArray
  let same := (allBytes.map some).toArray
  match p.delete, second with
  | false, some second =>
    let (domain, image) ← p.images first second
    let become := (domain.zip image).foldl
      (fun a (c, d) => a.setIfInBounds c.toNat (some d)) same
    return ⟨become, flags (if p.squeeze then image else [])⟩
  | false, none => return ⟨same, flags (if p.squeeze then p.domain first else [])⟩
  | true, second =>
    let second := second.getD []
    if second.any Element.isOpen then
      throw "the [c*] construct may appear in string2 only when translating".toList
    let gone := p.domain first
    return ⟨(allBytes.map fun c => if gone.contains c then none else some c).toArray,
      flags (if p.squeeze then bytesOf 0 second else [])⟩

end Plan

def Table.apply (t : Table) (stream : Bytes) : Bytes :=
  let step := fun (state : Option Char × Bytes) (c : Char) =>
    match t.become.getD c.toNat none with
    | none => state
    | some d =>
      if state.1 == some d && t.once.getD d.toNat false then state
      else (some d, d :: state.2)
  (stream.foldl step (none, [])).2.reverse

end Translate

/-- Replaces, deletes and joins the bytes of its stream. -/
def tr : Tool := fun j =>
  let known : List Opt :=
    [⟨'c', "complement", .nothing, true⟩, ⟨'C', "", .nothing, true⟩,
      ⟨'d', "delete", .nothing, true⟩, ⟨'s', "squeeze-repeats", .nothing, true⟩,
      ⟨'t', "truncate-set1", .nothing, true⟩]
  match readOptions known false none {} j.args with
  | .error problem => j.misused "tr" problem 1
  | .ok o =>
    let p : Translate.Plan := {
      complement := o.has 'c' || o.has 'C', delete := o.has 'd', squeeze := o.has 's'
      truncate := o.has 't' }
    let least := if p.delete == p.squeeze then 2 else 1
    let most := if p.delete && ! p.squeeze then 1 else 2
    let two := fun why : String => "\nTwo strings must be given when ".toList ++ why.toList
    if o.operands.length < least then
      match o.operands.getLast? with
      | none => j.misused "tr" "missing operand".toList 1
      | some last =>
        j.misused "tr" ("missing operand after ".toList ++ quoted last ++
          two (if p.squeeze then "both deleting and squeezing repeats." else "translating.")) 1
    else
      match o.operands.drop most with
      | extra :: _ =>
        j.misused "tr" ("extra operand ".toList ++ quoted extra ++
          (if o.operands.length = 2 then
            ("\nOnly one string may be given when deleting without squeezing " ++
              "repeats." : String).toList
          else [])) 1
      | [] =>
        let planned := do
          let strings ← o.operands.mapM Translate.parse
          p.table (strings.headD []) (strings[1]?)
        match planned with
        | .error problem => j.refuse ("tr: ".toList ++ problem) 1
        | .ok table => { stdout := table.apply j.stdin }

end AmbientDecls.Toolbox
