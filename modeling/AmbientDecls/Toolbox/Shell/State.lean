import AmbientDecls.Toolbox.Shell.Field
import AmbientDecls.Toolbox.Shell.Signal
import AmbientDecls.Toolbox.Shell.Syntax

/-!
# The state of a shell

What a shell knows while it runs a script, and the world that it shares with the shells it starts.
A step may end otherwise than with its result: a script may be left, a loop, or a function.
-/

namespace AmbientDecls.Toolbox.Shell

inductive Channel where
  /-- A stream that is read. -/
  | reader (n : Nat)
  /-- A stream that is written. -/
  | writer (n : Nat)
  /-- A file that is written at its end. -/
  | file (path : Text)
  | nowhere
deriving DecidableEq, Repr, Inhabited

/-- What all shells share: the streams that are read, those that are written, with the pieces
written last at the front, and the files. -/
structure World where
  readers : Array Bytes := #[]
  writers : Array (List Bytes) := #[]
  files : FileSystem := {}
deriving Inhabited

/-- A variable; it may be marked before it has a value. -/
structure Variable where
  value : Option Bytes := none
  exported : Bool := false
  isFixed : Bool := false
deriving DecidableEq, Repr, Inhabited

structure Knowledge where
  /-- The name that the shell was called by. -/
  called : Bytes
  parameters : List Bytes := []
  bindings : List (Bytes × Variable) := []
  functions : List (Bytes × Command) := []
  /-- The words that stand for other text where a command begins. -/
  aliases : List (Bytes × Bytes) := []
  descriptors : List (Nat × Channel) := []
  /-- The status of the last command. -/
  status : Nat := 0
  /-- The status of the last command whose output was taken for a word. -/
  outputStatus : Nat := 0
  options : List Char := []
  /-- What is done on signals; nothing is done on those with no bytes. -/
  traps : List (Nat × Bytes) := []
  /-- The signals that have been caught and not seen to. -/
  caught : List Nat := []
  line : Nat := 1
  /-- The command that is running, for messages. -/
  running : Option Bytes := none
  /-- How many loops are running. -/
  loops : Nat := 0
  /-- How many functions are running. -/
  depth : Nat := 0
  /-- The variables that functions have hidden, those of the innermost first. -/
  hidden : List (List (Bytes × Option Variable)) := []
  mask : Nat := 18
  /-- The status of each command that ran beside the script, by the number of its process. -/
  jobs : List (Nat × Nat) := []
  /-- How far into a word of options `getopts` has come. -/
  optionOffset : Nat := 0
deriving Inhabited

structure State where
  world : World
  own : Knowledge
deriving Inhabited

/-- How a step may end without a result. -/
inductive Flow where
  /-- The script ends. -/
  | exit (status : Nat)
  /-- The script ends because of a fault, unless that is seen to. -/
  | fault (status : Nat)
  /-- So many loops end. -/
  | leave (loops : Nat)
  /-- So many loops but one end, and that one goes on. -/
  | goOn (loops : Nat)
  /-- The function ends. -/
  | back (status : Nat)
  /-- A signal ends the shell. -/
  | killed (signal : Nat)
deriving DecidableEq, Repr, Inhabited

/-- A step of a shell. -/
abbrev Routine := ExceptT Flow (StateM State)

namespace Routine

def own : Routine Knowledge := return (← get).own

def update (f : Knowledge → Knowledge) : Routine Unit := modify fun s => { s with own := f s.own }

def change (f : World → World) : Routine Unit := modify fun s => { s with world := f s.world }

def files : Routine FileSystem := return (← get).world.files

def channel? (descriptor : Nat) : Routine (Option Channel) := do
  return (← own).descriptors.lookup descriptor

/-- Lets a descriptor lead somewhere, or nowhere at all. -/
def connect (descriptor : Nat) (c : Option Channel) : Routine Unit :=
  update fun k =>
    let others := k.descriptors.filter (·.1 ≠ descriptor)
    { k with descriptors := match c with
      | some c => (descriptor, c) :: others
      | none => others }

def newReader (b : Bytes) : Routine Channel := do
  let n := (← get).world.readers.size
  change fun w => { w with readers := w.readers.push b }
  return .reader n

def newWriter : Routine Nat := do
  let n := (← get).world.writers.size
  change fun w => { w with writers := w.writers.push [] }
  return n

/-- What has been written to a stream; it is empty then. -/
def drain (n : Nat) : Routine Bytes := do
  let pieces := ((← get).world.writers[n]?).getD []
  change fun w => { w with writers := w.writers.setIfInBounds n [] }
  return pieces.reverse.flatten

/-- What is left of the stream that a descriptor leads to. -/
def unread (descriptor : Nat) : Routine Bytes := do
  match ← channel? descriptor with
  | some (.reader n) => return ((← get).world.readers[n]?).getD []
  | _ => return []

/-- Leaves something of the stream that a descriptor leads to. -/
def leave (descriptor : Nat) (b : Bytes) : Routine Unit := do
  match ← channel? descriptor with
  | some (.reader n) => change fun w => { w with readers := w.readers.setIfInBounds n b }
  | _ => return

/-- Writes to where a descriptor leads, and tells whether that can be done. -/
def write (descriptor : Nat) (b : Bytes) : Routine Bool := do
  match ← channel? descriptor with
  | some (.writer n) =>
    change fun w => { w with writers := w.writers.modify n (b :: ·) }
    return true
  | some (.file path) =>
    change fun w =>
      let before := (w.files.read path).toOption.getD .empty
      { w with files := (w.files.write path (before ++ Bytes.toArray b)).files }
    return true
  | some .nowhere => return true
  | some (.reader _) | none => return b.isEmpty

/-- Writes a message about the script. -/
def complain (message : Bytes) : Routine Unit := do
  let k ← own
  let command := k.running.elim [] (· ++ ": ".toList)
  let _ ← write 2
    (k.called ++ ": ".toList ++ decimal k.line ++ ": ".toList ++ command ++ message ++ ['\n'])

/-- Ends with a message about a fault and a status. -/
def failWith {α : Type} (status : Nat) (message : Bytes) : Routine α := do
  complain message
  throw (.fault status)

/-- Ends with a message about a fault. -/
def fail {α : Type} (message : Bytes) : Routine α := failWith 2 message

def isSet (option : Char) : Routine Bool := return (← own).options.elem option

/-- Runs a step whose end without a result is seen to. -/
def catching {α : Type} (step : Routine α) (handler : Flow → Routine α) : Routine α :=
  tryCatch step handler

/-- Runs a step, and another one behind it however the first ends. -/
def always {α : Type} (step : Routine α) (behind : Routine Unit) : Routine α := do
  let result ← try
      pure (Except.ok (← step))
    catch f => pure (Except.error f)
  behind
  match result with
  | .ok a => return a
  | .error f => throw f

end Routine

/-- The options of a shell, with their names, in the order that they are shown in. -/
def optionNames : List (Option Char × String) :=
  [(some 'e', "errexit"), (some 'f', "noglob"), (some 'I', "ignoreeof"), (some 'i', "interactive"),
    (some 'm', "monitor"), (some 'n', "noexec"), (some 's', "stdin"), (some 'x', "xtrace"),
    (some 'v', "verbose"), (some 'V', "vi"), (some 'E', "emacs"), (some 'C', "noclobber"),
    (some 'a', "allexport"), (some 'b', "notify"), (some 'u', "nounset"), (some 'p', "privileged"),
    (none, "nolog"), (none, "debug")]

def optionLetters : List Char := optionNames.filterMap (·.1)

/-- The number of the shell's process. -/
def processId : Nat := 4242

namespace Knowledge

def entry? (k : Knowledge) (name : Bytes) : Option Variable := k.bindings.lookup name

def value? (k : Knowledge) (name : Bytes) : Option Bytes := (k.entry? name).bind (·.value)

def put (k : Knowledge) (name : Bytes) (v : Option Variable) : Knowledge :=
  let others := k.bindings.filter (·.1 ≠ name)
  { k with bindings := match v with
    | some v => (name, v) :: others
    | none => others }

def separators (k : Knowledge) : Bytes := (k.value? "IFS".toList).getD " \t\n".toList

def environment (k : Knowledge) : List (Bytes × Bytes) :=
  (k.bindings.filterMap fun (name, v) =>
    if v.exported then v.value.map (name, ·) else none).mergeSort
      fun a b => ! comesBefore b.1 a.1

/-- The value of a parameter that the shell keeps; nothing if it is not set. -/
def special? (k : Knowledge) (name : Bytes) : Option Bytes :=
  match name with
  | ['?'] => some (decimal k.status)
  | ['#'] => some (decimal k.parameters.length)
  | ['$'] => some (decimal processId)
  | ['-'] => some (optionLetters.filter k.options.elem)
  | ['!'] => k.jobs.head?.map fun (process, _) => decimal process
  | ['@'] | ['*'] =>
    if k.parameters.isEmpty then none else some ([' '].intercalate k.parameters)
  | name =>
    match number? name with
    | some 0 => some k.called
    | some n => k.parameters[n - 1]?
    | none => k.value? name

end Knowledge

namespace Routine

def assign (name value : Bytes) (exported : Bool) : Routine Unit := do
  let k ← own
  let old := (k.entry? name).getD {}
  if old.isFixed then fail (name ++ ": is read only".toList)
  let exported := exported || old.exported || k.options.elem 'a'
  update fun k => k.put name (some { old with value := some value, exported })

/-- Hides a variable until the function ends; it keeps its value. -/
def hide (name : Bytes) : Routine Unit :=
  update fun k =>
    match k.hidden with
    | [] => k
    | frame :: rest =>
      if frame.any (·.1 == name) then k
      else { k with hidden := ((name, k.entry? name) :: frame) :: rest }

/-- Runs a step with variables that may be hidden, and brings them back. -/
def withHidden {α : Type} (step : Routine α) : Routine α := do
  update fun k => { k with hidden := [] :: k.hidden }
  always step do
    update fun k =>
      match k.hidden with
      | [] => k
      | frame :: rest =>
        { frame.foldl (fun k (name, v) => k.put name v) k with hidden := rest }

/-- Runs a step as another shell does it: what it learns is forgotten. -/
def apart {α : Type} (step : Routine α) : Routine α := do
  let before ← own
  let directory := (← files).workingDirectory
  always step do
    update fun _ => before
    change fun w => { w with files := { w.files with workingDirectory := directory } }

end Routine

end AmbientDecls.Toolbox.Shell
