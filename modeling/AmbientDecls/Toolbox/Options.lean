import AmbientDecls.Toolbox.Basic

/-!
# Options of tools

An option is a letter behind a hyphen, or a name behind two. Letters may be put together, names may
be cut short as long as no other name starts so, and options may stand between the operands.
-/

namespace AmbientDecls.Toolbox

inductive Takes where
  | nothing
  | value
  /-- A value that must be attached if there is one. -/
  | perhaps
deriving DecidableEq, Repr, Inhabited

/-- An option: its letter, its name, and whether it takes a value. -/
structure Opt where
  letter : Char
  name : String := ""
  takes : Takes := .nothing
  /-- Whether the letter may be written; otherwise it only tells options apart. -/
  hasLetter : Bool := true
deriving DecidableEq, Repr, Inhabited

/-- The options of a command line, in order and with their values, and the operands. -/
structure Parsed where
  options : List (Char × Bytes) := []
  operands : List Bytes := []
deriving DecidableEq, Repr, Inhabited

namespace Parsed

def has (p : Parsed) (letter : Char) : Bool := p.options.any (·.1 == letter)

/-- The value of an option where it is given last. -/
def last? (p : Parsed) (letter : Char) : Option Bytes :=
  (p.options.reverse.find? (·.1 == letter)).map Prod.snd

def all (p : Parsed) (letter : Char) : List Bytes :=
  p.options.filterMap fun (c, value) => if c == letter then some value else none

/-- The last of some options that is given. -/
def lastOf? (p : Parsed) (letters : List Char) : Option Char :=
  (p.options.reverse.find? fun (c, _) => letters.elem c).map Prod.fst

end Parsed

/-- The options of letters that stand together, and one that is left without its value. -/
def letterOptions (known : List Opt) :
    Bytes → Except Bytes (List (Char × Bytes) × Option Char)
  | [] => .ok ([], none)
  | c :: rest =>
    match known.find? fun o => o.hasLetter && o.letter == c with
    | none => .error ("invalid option -- ".toList ++ enclosed [c])
    | some o =>
      match o.takes, rest with
      | .nothing, rest =>
        (letterOptions known rest).map fun (found, open?) => ((c, []) :: found, open?)
      | .value, [] => .ok ([], some c)
      | _, value => .ok ([(c, value)], none)

def candidates (known : List Opt) (name : Bytes) : List Opt :=
  match known.find? fun o => o.name ≠ "" && o.name.toList = name with
  | some o => [o]
  | none => known.filter fun o => o.name ≠ "" && name.isPrefixOf o.name.toList

/-- The option of a name, perhaps with its value, or one that is left without it. -/
def namedOption (known : List Opt) (body : Bytes) :
    Except Bytes (List (Char × Bytes) × Option Char) :=
  let name := body.takeWhile (· != '=')
  let dashed := fun n : Bytes => enclosed ('-' :: '-' :: n)
  match candidates known name, body.dropWhile (· != '=') with
  | [], _ => .error ("unrecognized option ".toList ++ dashed body)
  | [o], value =>
    match o.takes, value with
    | .nothing, [] => .ok ([(o.letter, [])], none)
    | .nothing, _ =>
      .error ("option ".toList ++ dashed o.name.toList ++ " doesn't allow an argument".toList)
    | .value, [] => .ok ([], some o.letter)
    | _, value => .ok ([(o.letter, value.drop 1)], none)
  | several, _ =>
    .error ("option ".toList ++ dashed body ++ " is ambiguous; possibilities:".toList ++
      several.flatMap fun o => ' ' :: dashed o.name.toList)

/-- The complaint that an option is left without its value. -/
def withoutValue (argument : Bytes) (letter : Char) (known : List Opt) : Bytes :=
  match argument, known.find? (·.letter == letter) with
  | '-' :: '-' :: _, some o =>
    "option ".toList ++ enclosed ("--".toList ++ o.name.toList) ++ " requires an argument".toList
  | _, _ => "option requires an argument -- ".toList ++ enclosed [letter]

/-- Reads the options of a command line. With `mixed`, options may follow operands. An option that
waits for its value is `waiting`, with the argument that it stands in. -/
def readOptions (known : List Opt) (mixed : Bool) (waiting : Option (Bytes × Char)) (p : Parsed) :
    List Bytes → Except Bytes Parsed
  | [] =>
    match waiting with
    | some (argument, letter) => .error (withoutValue argument letter known)
    | none => .ok { options := p.options.reverse, operands := p.operands.reverse }
  | argument :: rest =>
    match waiting with
    | some (_, letter) =>
      readOptions known mixed none { p with options := (letter, argument) :: p.options } rest
    | none =>
      match argument with
      | ['-', '-'] =>
        .ok { options := p.options.reverse, operands := p.operands.reverse ++ rest }
      | '-' :: c :: cs =>
        match (if c = '-' then namedOption known cs else letterOptions known (c :: cs)) with
        | .error e => .error e
        | .ok (found, open?) =>
          readOptions known mixed (open?.map (argument, ·))
            { p with options := found.reverse ++ p.options } rest
      | operand =>
        if mixed then
          readOptions known mixed none { p with operands := operand :: p.operands } rest
        else .ok { options := p.options.reverse, operands := p.operands.reverse ++ operand :: rest }

/-- Runs a tool on the options and operands that its arguments hold. -/
def withOptions (tool : String) (known : List Opt) (status : Nat)
    (run : Job → Parsed → Ended) : Tool := fun j =>
  match readOptions known true none {} j.args with
  | .error problem => j.misused tool problem status
  | .ok p => run j p

end AmbientDecls.Toolbox
