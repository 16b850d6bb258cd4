import AmbientDecls.Text.Basic

/-!
# Command line options

Options may stand before, between and after the files. Only the count of `-v` may grow; any other
option stands at most once. A value follows its option as the next argument, after an equals sign,
or right behind a single letter. Two hyphens alone end the options.
-/

namespace AmbientDecls

/-- What a command line asks for. -/
structure Options where
  /-- The patterns of the metadata files; without any, metadata is read from standard input. -/
  files : List Text := []
  /-- The file to write instead of standard output. -/
  output : Option Text := none
  moduleName : Text := "AtomTypes".toList
  implicitBase : Text := "Model".toList
  /-- The number of spaces for each open block. -/
  indentSize : Nat := 4
  useTabs : Bool := false
  /-- The command line of an external formatter. -/
  formatter : Option Text := none
  /-- Whether the raw document is the result. -/
  noFormat : Bool := false
  verbosity : Nat := 0
deriving DecidableEq, Repr, Inhabited

namespace Options

/-- The options. -/
inductive Key where
  | output
  | module
  | implicitBase
  | indentSize
  | useTabs
  | formatter
  | noFormat
  | verbose
  | help
deriving DecidableEq, Repr, Inhabited

namespace Key

def takesValue : Key → Bool
  | output | module | implicitBase | indentSize | formatter => true
  | useTabs | noFormat | verbose | help => false

/-- The option with a long name. -/
def ofName (name : Text) : Option Key :=
  match String.ofList name with
  | "output" => some output
  | "module" => some module
  | "implicit-base" => some implicitBase
  | "indent-size" => some indentSize
  | "use-tabs" => some useTabs
  | "formatter" => some formatter
  | "no-format" => some noFormat
  | "verbose" => some verbose
  | "help" => some help
  | _ => none

/-- The option with a letter. -/
def ofLetter : Char → Option Key
  | 'o' => some output
  | 'm' => some module
  | 'v' => some verbose
  | 'h' => some help
  | _ => none

end Key

/-- What ends the reading of a command line. -/
inductive Fault where
  /-- Help is asked for, which is no mistake. -/
  | helpRequested
  | unknown (argument : Text)
  | missingValue (key : Key)
  | unexpectedValue (key : Key)
  | invalidValue (key : Key)
  | repeated (key : Key)
  | formatterWithoutFormat
deriving DecidableEq, Repr, Inhabited

/-- What is asked for by the arguments so far. -/
structure Progress where
  options : Options := {}
  seen : List Key := []

def maxSize : Nat := 0xFFFFFFFFFFFFFFFF

/-- A size, in decimal digits after an optional plus sign. -/
def size? (t : Text) : Option Nat :=
  let digits := match t with
    | '+' :: rest => rest
    | _ => t
  if digits.isEmpty || ! digits.all Char.isDigit then none
  else
    let n := digits.foldl (fun n c => n * 10 + (c.toNat - '0'.toNat)) 0
    if n ≤ maxSize then some n else none

/-- Notes that an option stands in the command line. -/
def Progress.note (p : Progress) (key : Key) : Except Fault Progress :=
  if key = .verbose then .ok p
  else if p.seen.contains key then .error (.repeated key)
  else .ok { p with seen := key :: p.seen }

/-- Takes an option without a value. -/
def Progress.setFlag (p : Progress) (key : Key) : Except Fault Progress := do
  let p ← p.note key
  match key with
  | .useTabs => return { p with options.useTabs := true }
  | .noFormat => return { p with options.noFormat := true }
  | .verbose => return { p with options.verbosity := p.options.verbosity + 1 }
  | .help => .error .helpRequested
  | _ => .error (.missingValue key)

def Progress.setValue (p : Progress) (key : Key) (value : Text) : Except Fault Progress := do
  let p ← p.note key
  match key with
  | .output =>
    if value.isEmpty then .error (.invalidValue key)
    else return { p with options.output := some value }
  | .module => return { p with options.moduleName := value }
  | .implicitBase => return { p with options.implicitBase := value }
  | .indentSize =>
    match size? value with
    | none => .error (.invalidValue key)
    | some n => return { p with options.indentSize := n }
  | .formatter => return { p with options.formatter := some value }
  | _ => .error (.unexpectedValue key)

def Progress.addFile (p : Progress) (file : Text) : Progress :=
  { p with options.files := p.options.files ++ [file] }

/-- Whether an argument is an option rather than a value or a file. -/
def isOption : Text → Bool
  | '-' :: _ :: _ => true
  | _ => false

/-- Takes the letters behind a hyphen. An option that is left without its value is given back. -/
def Progress.letters (p : Progress) : Text → Except Fault (Progress × Option Key)
  | [] => .ok (p, none)
  | c :: rest =>
    match Key.ofLetter c with
    | none => .error (.unknown ['-', c])
    | some key =>
      if key.takesValue then
        match rest with
        | [] => .ok (p, some key)
        | '=' :: value => (p.setValue key value).map (·, none)
        | value => (p.setValue key value).map (·, none)
      else
        match p.setFlag key with
        | .error e => .error e
        | .ok p => p.letters rest

/-- Takes the name and perhaps the value behind two hyphens. An option that is left without its
value is given back. -/
def Progress.long (p : Progress) (argument : Text) : Except Fault (Progress × Option Key) :=
  let name := argument.takeWhile (· != '=')
  match Key.ofName name with
  | none => .error (.unknown ('-' :: '-' :: name))
  | some key =>
    match argument.dropWhile (· != '='), key.takesValue with
    | [], true => .ok (p, some key)
    | [], false => (p.setFlag key).map (·, none)
    | _ :: value, true => (p.setValue key value).map (·, none)
    | _ :: _, false => .error (.unexpectedValue key)

/-- Takes the arguments one by one; `pending` is an option that waits for its value. -/
def Progress.arguments (p : Progress) (pending : Option Key) : List Text → Except Fault Progress
  | [] =>
    match pending with
    | some key => .error (.missingValue key)
    | none => .ok p
  | argument :: rest =>
    match pending with
    | some key =>
      if isOption argument then .error (.missingValue key)
      else match p.setValue key argument with
        | .error e => .error e
        | .ok p => p.arguments none rest
    | none =>
      match argument with
      | ['-', '-'] => .ok (rest.foldl Progress.addFile p)
      | '-' :: '-' :: body =>
        match p.long body with
        | .error e => .error e
        | .ok (p, pending) => p.arguments pending rest
      | '-' :: c :: body =>
        match p.letters (c :: body) with
        | .error e => .error e
        | .ok (p, pending) => p.arguments pending rest
      | _ => (p.addFile argument).arguments none rest

/-- Reads a command line. -/
def parse (args : List Text) : Except Fault Options :=
  match Progress.arguments {} none args with
  | .error e => .error e
  | .ok p =>
    if p.options.formatter.isSome && p.options.noFormat then .error .formatterWithoutFormat
    else .ok p.options

end Options

end AmbientDecls
