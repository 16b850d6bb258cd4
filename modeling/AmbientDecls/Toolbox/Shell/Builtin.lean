import AmbientDecls.Toolbox.Printf.Basic
import AmbientDecls.Toolbox.Printf.Escape
import AmbientDecls.Toolbox.Shell.Condition
import AmbientDecls.Toolbox.Shell.State
import AmbientDecls.Toolbox.Shell.Token

/-!
# Commands of the shell itself

The commands that a shell carries out without another program, as far as they run no commands in
turn. Each is given its arguments and comes to a status.
-/

namespace AmbientDecls.Toolbox.Shell

/-- A command of the shell itself. -/
abbrev Builtin := List Bytes → Routine Nat

namespace Builtin

open Routine

/-- Writes to the output, and comes to the status that tells whether that could be done. -/
def print (b : Bytes) : Routine Nat := do
  if ← write 1 b then return 0
  let k ← own
  complain (k.running.getD [] ++ ": I/O error".toList)
  return 1

def printLines (lines : List Bytes) : Routine Nat := print (joinLines '\n' lines)

/-- Reads options out of arguments; behind a letter that takes a value there is a colon in
`allowed`. What is returned are the options with their values, and the arguments left. -/
def readOptions (allowed : List Char) : (fuel : Nat) → List Bytes →
    Routine (List (Char × Bytes) × List Bytes)
  | 0, args => return ([], args)
  | _, [] => return ([], [])
  | fuel + 1, arg :: rest => do
    match arg with
    | ['-', '-'] => return ([], rest)
    | '-' :: c :: more =>
      let behind := (allowed.dropWhile (· != c)).drop 1
      if c = ':' || ! allowed.elem c then fail ("Illegal option -".toList ++ [c])
      else if behind.head? = some ':' then
        let (value, rest) ← match more, rest with
          | [], [] => fail ("No arg for -".toList ++ c :: " option".toList)
          | [], value :: rest => pure (value, rest)
          | value, rest => pure (value, rest)
        let (others, rest) ← readOptions allowed fuel rest
        return ((c, value) :: others, rest)
      else
        let (others, rest) ← readOptions allowed fuel
          (if more.isEmpty then rest else ('-' :: more) :: rest)
        return ((c, []) :: others, rest)
    | _ => return ([], arg :: rest)

/-- The options of arguments, and the arguments left. -/
def optionsOf (allowed : String) (args : List Bytes) : Routine (List (Char × Bytes) × List Bytes) :=
  readOptions allowed.toList (args.foldl (fun n a => n + a.length + 1) 1) args

def numberOf (b : Bytes) : Routine Nat :=
  match number? b with
  | some n => return n
  | none => fail ("Illegal number: ".toList ++ b)

/-- Bytes in quotes of either kind, each for what the other cannot hold. -/
def quotedRuns : (fuel : Nat) → Bytes → Bytes
  | 0, _ => []
  | fuel + 1, b =>
    let plain := b.takeWhile (· != '\'')
    let quotes := (b.drop plain.length).takeWhile (· == '\'')
    let rest := b.drop (plain.length + quotes.length)
    '\'' :: plain ++ ['\''] ++
      (if quotes.isEmpty then [] else '"' :: quotes ++ ['"']) ++
      if rest.isEmpty then [] else quotedRuns fuel rest

/-- Bytes in quotes as scripts read them back. -/
def singleQuoted (b : Bytes) : Bytes := quotedRuns (b.length + 1) b

def succeed : Builtin := fun _ => return 0

/-- Does nothing, and does not do it well. -/
def fail : Builtin := fun _ => return 1

def echo : Builtin := fun args => do print (Toolbox.scriptEcho { args }).stdout

/-- Writes its arguments by a format. -/
def printf : Builtin := fun args => do
  let (_, args) ← optionsOf "" args
  match args with
  | [] => Routine.fail "usage: printf format [arg ...]".toList
  | format :: args =>
    let p := Printing.run true format args
    for message in p.complaints do complain message
    let status ← print p.output.reverse
    return max p.status status

def test : Builtin := fun args => do
  match Condition.holds (← files) args with
  | .ok result => return if result then 0 else 1
  | .error message => Routine.fail message

/-- Tells whether a condition between brackets holds. -/
def bracket : Builtin := fun args =>
  if args.getLast? = some [']'] then test args.dropLast
  else Routine.fail "missing ]".toList

def pathOf (place : Place) : Bytes :=
  if place.isEmpty then ['/'] else place.flatMap fun name => '/' :: Bytes.ofText name

def changeDirectory : Builtin := fun args => do
  let (_, args) ← optionsOf "LP" args
  let k ← own
  let (target, shown) := match args with
    | [] => ((k.value? "HOME".toList).getD [], false)
    | ['-'] :: _ => ((k.value? "OLDPWD".toList).getD [], true)
    | target :: _ => (target, false)
  if target.isEmpty then return 0
  let fs ← files
  match fs.find (Bytes.toText target) with
  | .ok (place, .directory) =>
    let before := pathOf fs.workingDirectory
    change fun w => { w with files := { w.files with workingDirectory := place } }
    assign "OLDPWD".toList before true
    assign "PWD".toList (pathOf place) true
    if shown then print (pathOf place ++ ['\n']) else return 0
  | _ => Routine.fail ("can't cd to ".toList ++ target)

def workingDirectory : Builtin := fun args => do
  let _ ← optionsOf "LP" args
  print (pathOf (← files).workingDirectory ++ ['\n'])

/-- A line of input: each byte, and whether it was behind a backslash; and whether the line was
ended. What follows it is left. -/
def inputLine (raw : Bool) (read : List (Char × Bool)) : Bytes →
    List (Char × Bool) × Bool × Bytes
  | [] => (read.reverse, false, [])
  | '\n' :: rest => (read.reverse, true, rest)
  | '\\' :: c :: rest =>
    if raw then inputLine raw (('\\', false) :: read) (c :: rest)
    else if c = '\n' then inputLine raw read rest
    else inputLine raw ((c, true) :: read) rest
  | c :: rest =>
    if c = '\x00' then inputLine raw read rest else inputLine raw ((c, false) :: read) rest
termination_by t => t.length

/-- Whether a byte of input divides fields, and whether it is a blank. -/
def divides (separators : Bytes) (blank : Bool) (p : Char × Bool) : Bool :=
  ! p.2 && separators.elem p.1 && (p.1 == ' ' || p.1 == '\t' || p.1 == '\n') == blank

/-- What is behind the separator at the front of input. -/
def behindSeparator (separators : Bytes) (t : List (Char × Bool)) : List (Char × Bool) :=
  let t := t.dropWhile (divides separators true)
  match t with
  | p :: rest =>
    if divides separators false p then rest.dropWhile (divides separators true) else p :: rest
  | [] => []

/-- The values of so many variables from a line. The last one takes all that is left, but not a
single separator at its end. -/
def inputFields (separators : Bytes) : (count : Nat) → List (Char × Bool) → List Bytes
  | 0, _ => []
  | 1, t =>
    let isSeparator := fun p => divides separators true p || divides separators false p
    let first := t.takeWhile fun p => ! isSeparator p
    let value :=
      if (behindSeparator separators (t.drop first.length)).isEmpty then first
      else (t.reverse.dropWhile (divides separators true)).reverse
    [value.map (·.1)]
  | count + 2, t =>
    let isSeparator := fun p => divides separators true p || divides separators false p
    let first := t.takeWhile fun p => ! isSeparator p
    first.map (·.1) ::
      inputFields separators (count + 1) (behindSeparator separators (t.drop first.length))

def read : Builtin := fun args => do
  let (options, names) ← optionsOf "p:r" args
  if names.isEmpty then Routine.fail "arg count".toList
  for name in names do
    if ! isName name then Routine.fail (name ++ ": bad variable name".toList)
  let k ← own
  let (line, ended, rest) := inputLine (options.any (·.1 == 'r')) [] (← unread 0)
  leave 0 rest
  let line := line.dropWhile (divides k.separators true)
  for (name, value) in names.zip (inputFields k.separators names.length line) do
    assign name value false
  return if ended then 0 else 1

def setOption (on : Bool) (c : Char) : Routine Unit := do
  if ! optionLetters.elem c then Routine.fail ("Illegal option -".toList ++ [c])
  update fun k =>
    let others := k.options.filter (· != c)
    { k with options := if on then c :: others else others }

def setNamed (on : Bool) (name : Bytes) : Routine Unit := do
  match optionNames.find? fun (_, n) => n.toList == name with
  | some (some c, _) => setOption on c
  | some (none, _) => return
  | none => Routine.fail ("Illegal option -o ".toList ++ name)

def describeOptions (on : Bool) : Routine Unit := do
  let k ← own
  let isOn := fun (c : Option Char) => c.any k.options.elem
  let lines := optionNames.map fun (c, name) =>
    if on then name.toList ++ List.replicate (16 - name.length) ' ' ++
      (if isOn c then "on" else "off").toList
    else ((if isOn c then "set -o " else "set +o ") ++ name).toList
  let _ ← printLines (if on then "Current option settings".toList :: lines else lines)

/-- Sets options, and the parameters if there are any left. -/
def setOptions : (fuel : Nat) → List Bytes → Routine Unit
  | 0, _ => return
  | _, [] => return
  | fuel + 1, arg :: rest => do
    match arg with
    | ['-'] =>
      setOption false 'x'
      setOption false 'v'
      if ! rest.isEmpty then update fun k => { k with parameters := rest }
    | ['-', '-'] => update fun k => { k with parameters := rest }
    | sign :: letters =>
      if sign = '-' || sign = '+' then
        let on := sign = '-'
        let mut rest := rest
        for c in letters do
          if c = 'o' then
            match rest with
            | [] => describeOptions on
            | name :: more =>
              setNamed on name
              rest := more
          else setOption on c
        setOptions fuel rest
      else update fun k => { k with parameters := arg :: rest }
    | [] => update fun k => { k with parameters := arg :: rest }

/-- Sets options and parameters, or writes the variables. -/
def set : Builtin := fun args => do
  if args.isEmpty then
    let k ← own
    let lines := (k.bindings.filterMap fun (name, v) =>
      v.value.map fun value => name ++ '=' :: singleQuoted value).mergeSort
        fun a b => ! comesBefore b a
    printLines lines
  else
    setOptions (args.length + 1) args
    return 0

/-- Drops parameters at the front. -/
def shift : Builtin := fun args => do
  let n ← match args with
    | [] => pure 1
    | arg :: _ => numberOf arg
  let k ← own
  if k.parameters.length < n then Routine.fail "can't shift that many".toList
  update fun k => { k with parameters := k.parameters.drop n }
  return 0

/-- The name and the value of an argument that assigns. -/
def assignment (arg : Bytes) : Routine (Bytes × Option Bytes) := do
  let name := arg.takeWhile (· != '=')
  if ! isName name then Routine.fail (name ++ ": bad variable name".toList)
  return (name, if name.length < arg.length then some (arg.drop (name.length + 1)) else none)

/-- Marks variables, which may be given values, or writes those that are marked. -/
def mark (command : String) (isMarked : Variable → Bool) (make : Variable → Variable) : Builtin :=
    fun args => do
  let (options, args) ← optionsOf "p" args
  if args.isEmpty || options.any (·.1 == 'p') then
    let k ← own
    let lines := (k.bindings.filterMap fun (name, v) =>
      if isMarked v then
        some (command.toList ++ ' ' :: name ++
          v.value.elim [] fun value => '=' :: singleQuoted value)
      else none).mergeSort fun a b => ! comesBefore b a
    return ← printLines lines
  for arg in args do
    let (name, value) ← assignment arg
    match value with
    | some value => assign name value false
    | none => pure ()
    update fun k => k.put name (some (make ((k.entry? name).getD {})))
  return 0

def exportVariables : Builtin := mark "export" (·.exported) fun v => { v with exported := true }

/-- Keeps variables from being changed. -/
def readonly : Builtin := mark "readonly" (·.isFixed) fun v => { v with isFixed := true }

/-- Forgets variables or functions. -/
def unset : Builtin := fun args => do
  let (options, names) ← optionsOf "vf" args
  for name in names do
    if (options.getLast?.map (·.1)) = some 'f' then
      update fun k => { k with functions := k.functions.filter (·.1 ≠ name) }
    else
      if ! isName name then Routine.fail (name ++ ": bad variable name".toList)
      let k ← own
      if (k.entry? name).any (·.isFixed) then Routine.fail (name ++ ": is read only".toList)
      update fun k => k.put name none
  return 0

/-- Hides variables for the rest of a function. -/
def hideVariables : Builtin := fun args => do
  if (← own).depth = 0 then Routine.fail "not in a function".toList
  for arg in args do
    let (name, value) ← assignment arg
    hide name
    match value with
    | some value => assign name value false
    | none => pure ()
  return 0

/-- Sets what is done on signals, or writes it. -/
def trap : Builtin := fun args => do
  let (_, args) ← optionsOf "" args
  let k ← own
  match args with
  | [] =>
    printLines ((k.traps.mergeSort fun a b => a.1 ≤ b.1).map fun (n, action) =>
      "trap -- ".toList ++ singleQuoted action ++ ' ' :: (signalLabel n).toList)
  | first :: rest =>
    let (action, names) :=
      if rest.isEmpty || (signal? first).isSome then (none, args)
      else (if first = ['-'] then none else some first, rest)
    for name in names do
      match signal? name with
      | none =>
        let _ ← write 2 ("trap: ".toList ++ name ++ ": bad trap\n".toList)
        return 1
      | some n =>
        update fun k =>
          let others := k.traps.filter (·.1 ≠ n)
          { k with traps := match action with
            | some action => (n, action) :: others
            | none => others }
    return 0

def receive (signal : Nat) : Routine Unit := do
  let k ← own
  match if isUnstoppable signal then none else k.traps.lookup signal with
  | some [] => return
  | some _ => update fun k => { k with caught := k.caught ++ [signal] }
  | none =>
    if isIgnoredAnyway signal || (19 ≤ signal && signal ≤ 22) then return
    throw (.killed signal)

def killUsage : Bytes :=
  ("Usage: kill [-s sigspec | -signum | -sigspec] [pid | job]... or\n" ++
    "kill -l [exitstatus]").toList

/-- Sends processes a signal, or writes the names of signals. -/
def kill : Builtin := fun args => do
  let (signal, list, targets) ← match args with
    | [] => Routine.fail killUsage
    | first :: rest =>
      match first with
      | '-' :: name =>
        match signal? name with
        | some n => if name.isEmpty then pure (none, false, args) else pure (some n, false, rest)
        | none =>
          let (options, rest) ← optionsOf "ls:" args
          let mut signal := none
          for (c, value) in options do
            if c = 's' then
              match signal? value with
              | some n => signal := some n
              | none =>
                Routine.fail ("invalid signal number or name: ".toList ++ value)
          pure (signal, options.any (·.1 == 'l'), rest)
      | _ => pure (none, false, args)
  if list then
    match targets with
    | [] => return ← printLines ("0".toList ::
        (List.range lastSignal).map fun n =>
          let name := signalLabel (n + 1)
          if n + 1 = 32 || n + 1 = 33 then decimal (n + 1) else name.toList)
    | target :: _ =>
      let n ← numberOf target
      return ← print ((signalLabel (if 128 < n then n - 128 else n)).toList ++ ['\n'])
  if targets.isEmpty then Routine.fail killUsage
  let mut status := 0
  for target in targets do
    let n ← match target with
      | '-' :: digits => numberOf digits
      | '%' :: _ => Routine.fail ("No such job: ".toList ++ target)
      | target => numberOf target
    if n = processId || n = 0 then receive (signal.getD 15)
    else
      complain ("No such process\n".toList)
      status := 1
  return status

def maskText (mask : Nat) : Bytes :=
  let who := fun (name : Char) (shift : Nat) =>
    let bits := 7 - mask / shift % 8
    name :: '=' :: (if 4 ≤ bits then ['r'] else []) ++ (if 2 ≤ bits % 4 then ['w'] else []) ++
      (if bits % 2 = 1 then ['x'] else [])
  who 'u' 64 ++ ',' :: who 'g' 8 ++ ',' :: who 'o' 1

/-- Sets the mask of new files, or writes it. -/
def umask : Builtin := fun args => do
  let (options, args) ← optionsOf "S" args
  match args with
  | [] =>
    let mask := (← own).mask
    if options.isEmpty then
      let figures := Nat.toDigits 8 mask
      print (List.replicate (4 - figures.length) '0' ++ figures ++ ['\n'])
    else print (maskText mask ++ ['\n'])
  | arg :: _ =>
    let (n, rest) := digits octal? 8 0 arg.length arg
    if rest.isEmpty then
      update fun k => { k with mask := n % 512 }
      return 0
    else Routine.fail ("Illegal number: ".toList ++ arg)

/-- Waits for commands that run beside the script; they have ended already. -/
def wait : Builtin := fun args => do
  let (_, args) ← optionsOf "" args
  match args.getLast? with
  | none => return 0
  | some target =>
    let n ← numberOf target
    return ((← own).jobs.lookup n).getD 127

/-- Fails because no command runs beside the script. -/
def resume : Builtin := fun _ => Routine.fail "No current job".toList

/-- Reads an option out of the parameters, or out of other arguments. -/
def getopts : Builtin := fun args => do
  match args with
  | letters :: name :: words =>
    let k ← own
    let words := if words.isEmpty then k.parameters else words
    let index := ((k.value? "OPTIND".toList).bind number?).getD 1
    let offset := if index = 1 && k.optionOffset = 0 then 0 else k.optionOffset
    let finish := fun (c : Char) (index offset status : Nat) => do
      assign "OPTIND".toList (decimal index) false
      assign name [c] false
      update fun k => { k with optionOffset := offset }
      return status
    let current := (words[index - 1]?).getD []
    let letter? := match current.drop (if offset = 0 then 1 else offset) with
      | c :: more => if current.head? = some '-' then some (c, more) else none
      | [] => none
    match letter? with
    | none => finish '?' index 0 1
    | some ('-', []) =>
      if offset = 0 then finish '?' (index + 1) 0 1 else finish '?' index 0 1
    | some (c, more) =>
      let next := if more.isEmpty then (index + 1, 0) else (index, current.length - more.length)
      let silent := letters.head? = some ':'
      if c = ':' || ! letters.elem c then
        if silent then assign "OPTARG".toList [c] false
        else
          let _ ← write 2 ("Illegal option -".toList ++ [c, '\n'])
          update fun k => k.put "OPTARG".toList none
        finish '?' next.1 next.2 0
      else if ((letters.dropWhile (· != c)).drop 1).head? = some ':' then
        match more, words[index]? with
        | [], none =>
          if silent then
            assign "OPTARG".toList [c] false
            finish ':' (index + 1) 0 0
          else
            let _ ← write 2 ("No arg for -".toList ++ c :: " option\n".toList)
            update fun k => k.put "OPTARG".toList none
            finish '?' (index + 1) 0 0
        | [], some value =>
          assign "OPTARG".toList value false
          finish c (index + 2) 0 0
        | value, _ =>
          assign "OPTARG".toList value false
          finish c (index + 1) 0 0
      else
        assign "OPTARG".toList [] false
        finish c next.1 next.2 0
  | _ => Routine.fail "Usage: getopts optstring var [arg...]".toList

/-- Ends the script. -/
def exit : Builtin := fun args => do
  let status ← match args with
    | [] => pure (← own).status
    | arg :: _ => numberOf arg
  throw (.exit (status % 256))

/-- Ends the function, or the script outside of one. -/
def endFunction : Builtin := fun args => do
  let status ← match args with
    | [] => pure (← own).status
    | arg :: _ => numberOf arg
  throw (.back status)

/-- How many loops an argument asks for. -/
def loopCount (args : List Bytes) : Routine Nat := do
  let n ← match args with
    | [] => pure 1
    | arg :: _ => numberOf arg
  if n = 0 then Routine.fail ("Illegal number: ".toList ++ args.head?.getD [])
  return min n (← own).loops

def leaveLoops : Builtin := fun args => do
  let n ← loopCount args
  if n = 0 then return 0 else throw (.leave n)

def nextRound : Builtin := fun args => do
  let n ← loopCount args
  if n = 0 then return 0 else throw (.goOn n)

/-- Lets words stand for other text where a command begins, or shows the text. -/
def makeAliases : Builtin := fun args => do
  let shown := fun (name, text) => name ++ '=' :: singleQuoted text
  if args.isEmpty then return ← printLines ((← own).aliases.map shown)
  let mut status := 0
  for arg in args do
    match arg with
    | [] => pure ()
    | c :: rest =>
      let name := c :: rest.takeWhile (· != '=')
      if name.length < arg.length then
        update fun k => { k with
          aliases := k.aliases.filter (·.1 ≠ name) ++ [(name, arg.drop (name.length + 1))] }
      else match (← own).aliases.lookup name with
        | some text =>
          let _ ← printLines [shown (name, text)]
        | none =>
          let _ ← write 2 ("alias: ".toList ++ name ++ " not found\n".toList)
          status := 1
  return status

/-- Lets words stand for themselves again. -/
def dropAliases : Builtin := fun args => do
  let (options, args) ← optionsOf "a" args
  if ! options.isEmpty then
    update fun k => { k with aliases := [] }
    return 0
  let mut status := 0
  for name in args do
    if ((← own).aliases.lookup name).isNone then
      let _ ← write 2 ("unalias: ".toList ++ name ++ " not found\n".toList)
      status := 1
    update fun k => { k with aliases := k.aliases.filter (·.1 ≠ name) }
  return status

/-- The commands of the shell itself that run no others. -/
def all : List (String × Builtin) :=
  [(":", succeed), ("true", succeed), ("false", fail), ("echo", echo), ("printf", printf),
    ("test", test), ("[", bracket), ("cd", changeDirectory), ("chdir", changeDirectory),
    ("pwd", workingDirectory), ("read", read), ("set", set), ("shift", shift),
    ("export", exportVariables), ("readonly", readonly), ("unset", unset), ("local", hideVariables),
    ("trap", trap), ("kill", kill), ("umask", umask), ("wait", wait), ("getopts", getopts),
    ("exit", exit), ("return", endFunction), ("break", leaveLoops), ("continue", nextRound),
    ("ulimit", succeed), ("jobs", succeed), ("times", succeed),
    ("alias", makeAliases), ("unalias", dropAliases), ("fg", resume), ("bg", resume)]

/-- The commands of the shell itself that run others. -/
def running : List String := [".", "command", "eval", "exec", "hash", "type"]

def find? (name : Bytes) : Option Builtin := all.lookup (String.ofList name)

/-- Whether a command of the shell itself has the name. -/
def isBuiltin (name : Bytes) : Bool :=
  (find? name).isSome || running.contains (String.ofList name)

end Builtin

end AmbientDecls.Toolbox.Shell
