import AmbientDecls.Toolbox.Shell.Builtin
import AmbientDecls.Toolbox.Shell.Parse

/-!
# Running scripts

What commands do. Everything that may go on without an end takes one off its fuel; commands in a
pipeline and commands beside the script are run one after another.
-/

namespace AmbientDecls.Toolbox.Shell

/-- Where a shell finds the programs that are not its own. -/
structure Host where
  find : Finder
  /-- The path of a program that is called by its name alone. -/
  pathOf? : Text → Option Text

/-- How a word is expanded. -/
inductive Expansion where
  /-- Into fields. -/
  | fields
  /-- Into one value. -/
  | value
deriving DecidableEq, Repr, Inhabited

/-- How deep functions may call one another. -/
def deepest : Nat := 1000

/-- The directories that programs are looked for in. -/
def searched : List Bytes := ["/usr/bin", "/bin"].map String.toList

open Routine

/-- A word with the sign for the home directory at its front replaced. -/
def withHome (k : Knowledge) (w : Word) : Word :=
  match w with
  | .text false ('~' :: rest) :: more =>
    let name := rest.takeWhile (· != '/')
    let isWhole := name.length < rest.length || more.isEmpty
    if ! isWhole || ! (name.isEmpty || name = "root".toList) then w
    else
      let home := if name.isEmpty then k.value? "HOME".toList else some "/root".toList
      match home with
      | some home => .text true home :: .text false (rest.drop name.length) :: more
      | none => w
  | w => w

/-- The parts of all parameters: those of each on its own, or with `joined` as one value. -/
def ofParameters (k : Knowledge) (quoted joined : Bool) : List Part :=
  if quoted && joined then
    let divider := match k.value? "IFS".toList with
      | none => [' ']
      | some separators => separators.take 1
    Part.ofValue true (divider.intercalate k.parameters)
  else [Part.gap].intercalate (k.parameters.map (Part.ofValue quoted))

/-- The parts of a word in place of a value: what is not quoted is split. -/
def asResult (parts : List Part) : List Part :=
  parts.map fun p => match p with
    | .byte c .literal => .byte c .result
    | p => p

/-- Writes the words of a command if that is asked for. -/
def traceCommand (assignments : List (Bytes × Bytes)) (words : List Bytes) : Routine Unit := do
  if ← isSet 'x' then
    let k ← own
    let all := assignments.map (fun (name, value) => name ++ '=' :: value) ++ words
    let _ ← write 2 ((k.value? "PS4".toList).getD [] ++ [' '].intercalate all ++ ['\n'])

/-- What is said of a file that cannot be opened. -/
def openingFault (creating : Bool) (e : OsError) : Bytes :=
  match e with
  | .notFound | .notADirectory =>
    (if creating then "Directory nonexistent" else "No such file").toList
  | e => e.description.toList

/-- The channel of a path that stands for a descriptor. -/
def standardChannel? (path : Bytes) : Option Nat :=
  match String.ofList path with
  | "/dev/stdin" => some 0
  | "/dev/stdout" => some 1
  | "/dev/stderr" => some 2
  | _ => none

def openToWrite (path : Bytes) (append : Bool) : Routine (Option Channel) := do
  if let some n := standardChannel? path then return ← channel? n
  let refuse := fun (e : OsError) =>
    fail ("cannot create ".toList ++ path ++ ": ".toList ++ openingFault true e)
  let fs ← files
  let text := Bytes.toText path
  if path = "/dev/null".toList then return some .nowhere
  let kept := if append then (fs.read text).toOption.getD .empty else .empty
  let written := fs.write text kept
  match written.error? with
  | some e => refuse e
  | none =>
    change fun w => { w with files := written.files }
    match written.files.follow text with
    | .ok place => return some (.file (Bytes.toText (Builtin.pathOf place)))
    | .error e => refuse e

def openToRead (path : Bytes) : Routine (Option Channel) := do
  if let some n := standardChannel? path then return ← channel? n
  match (← files).read (Bytes.toText path) with
  | .ok content => return some (← newReader (Bytes.ofArray content))
  | .error .isADirectory => return some (← newReader [])
  | .error e => fail ("cannot open ".toList ++ path ++ ": ".toList ++ openingFault false e)

/-- Carries out a redirection whose target is known. -/
def redirect (descriptor : Nat) (opening : Opening) (target : Bytes) : Routine Unit := do
  match opening with
  | .read | .readWrite => connect descriptor (← openToRead target)
  | .write =>
    if (← isSet 'C') && (← files).isFile (Bytes.toText target) then
      fail ("cannot create ".toList ++ target ++ ": File exists".toList)
    connect descriptor (← openToWrite target false)
  | .overwrite => connect descriptor (← openToWrite target false)
  | .append => connect descriptor (← openToWrite target true)
  | .document => connect descriptor (some (← newReader target))
  | .duplicate =>
    match target with
    | ['-'] => connect descriptor none
    | [c] =>
      match ← channel? (c.toNat - '0'.toNat) with
      | some channel => connect descriptor (some channel)
      | none => fail ([c] ++ ": Bad file descriptor".toList)
    | _ => return

/-- Runs a program that is not the shell's own. -/
def runTool (tool : Tool) (called : Bytes) (args : List Bytes) : Routine Nat := do
  let k ← own
  let ended := tool {
    args, stdin := ← unread 0, files := ← files, called, environment := k.environment }
  leave 0 ended.unread
  let report := do let _ ← write 2 ended.stderr
  if called != "cat".toList then report
  let _ ← write 1 ended.stdout
  if called = "cat".toList then report
  for (path, content) in ended.written do
    if let some n := standardChannel? path then
      let _ ← write n content
  let others := ended.written.filter fun (path, _) => (standardChannel? path).isNone
  change fun w => { w with files := { ended with written := others }.filesAfter w.files }
  match ended.status with
  | .code n => return n
  | .signal n _ =>
    if n ≠ 2 && n ≠ 13 then
      let _ ← write 2 ((signalText n).toList ++ ['\n'])
    return 128 + n

/-- The program that a name stands for, or the message and the status if there is none. -/
def findTool (h : Host) (name : Bytes) : Routine (Except (Bytes × Nat) Tool) := do
  let missing := (name ++ ": not found".toList, 127)
  if name.isEmpty then return .error (": Permission denied".toList, 127)
  let path := ((← own).value? "PATH".toList).getD []
  let reached := name.elem '/' ||
    (Text.split (· == ':') path).any searched.contains
  if ! reached then return .error missing
  match h.find (← files) (Bytes.toText name) with
  | .ok tool => return .ok tool
  | .error .permissionDenied => return .error (name ++ ": Permission denied".toList, 126)
  | .error _ => return .error missing

def describe (h : Host) (verbose : Bool) (name : Bytes) : Routine Nat := do
  let k ← own
  let say := fun (text : String) (plain : Bytes) =>
    Builtin.print ((if verbose then name ++ text.toList else plain) ++ ['\n'])
  if (Keyword.ofBytes? name).isSome then say " is a shell keyword" name
  else if let some text := k.aliases.lookup name then
    say (" is an alias for " ++ String.ofList text)
      ("alias ".toList ++ name ++ '=' :: Builtin.singleQuoted text)
  else if (k.functions.lookup name).isSome then say " is a shell function" name
  else if specialNames.contains name then say " is a special shell builtin" name
  else if Builtin.isBuiltin name then say " is a shell builtin" name
  else
    let found ← findTool h name
    let path? :=
      if name.elem '/' then some name
      else (h.pathOf? (Bytes.toText name)).map Bytes.ofText
    match found, path? with
    | .ok _, some path => say (" is " ++ String.ofList path) path
    | _, _ =>
      if verbose then
        let _ ← Builtin.print (name ++ ": not found\n".toList)
      return 127

/-- Runs a step with one more loop around. -/
def inLoop (step : Routine Nat) : Routine Nat := do
  let loops := (← own).loops
  update fun k => { k with loops := loops + 1 }
  always step (update fun k => { k with loops })

/-- Runs the body of a loop, and tells whether the loop goes on. -/
def round (step : Routine Nat) : Routine (Nat × Bool) := do
  let loops := (← own).loops
  catching (do return (← step, true)) fun f => do
    update fun k => { k with loops, status := 0 }
    match f with
    | .leave n => if n ≤ 1 then return (0, false) else throw (.leave (n - 1))
    | .goOn n => if n ≤ 1 then return (0, true) else throw (.goOn (n - 1))
    | f => throw f

mutual

def expand (h : Host) : (fuel : Nat) → Word → Routine (List Part)
  | 0, _ => return []
  | _, [] => return []
  | fuel + 1, piece :: rest => do
    let first ← match piece with
      | .text true b => pure (Part.quotes :: b.map (Part.byte · .quoted))
      | .text false b => pure (b.map (Part.byte · .literal))
      | .parameter quoted name change word => parameter h quoted name change word fuel
      | .output quoted script => do
        let b ← outputOf h script fuel
        pure (Part.ofValue quoted b)
      | .calculation quoted word => do
        let expression := Part.bytes (← expand h fuel word)
        let k ← own
        match calculate k.value? expression with
        | .ok (n, assigned) =>
          for (name, value) in assigned do assign name (toString value).toList false
          pure (Part.ofValue quoted (toString n).toList)
        | .error (.expression message) =>
          fail ("arithmetic expression: ".toList ++ message.toList ++ ": \"".toList ++
            expression ++ ['"'])
        | .error (.illegal value) => fail ("Illegal number: ".toList ++ value)
    return first ++ (← expand h fuel rest)
termination_by structural fuel _ => fuel

def parameter (h : Host) (quoted : Bool) (name : Bytes) (change : Change) (word : Word) :
    (fuel : Nat) → Routine (List Part)
  | 0 => return []
  | fuel + 1 => do
    let k ← own
    let value? := k.special? name
    let isList := name = ['@'] || name = ['*']
    let kept :=
      if isList then ofParameters k quoted (name = ['*'])
      else Part.ofValue quoted (value?.getD [])
    let lacks := fun (orEmpty : Bool) => value?.all fun value => orEmpty && value.isEmpty
    let instead := do
      let parts ← expand h fuel (withHome k word)
      return if quoted then Part.quotes :: parts else asResult parts
    let present := do
      if value?.isNone && ! isList && k.options.elem 'u' then
        fail (name ++ ": parameter not set".toList)
    match change with
    | .invalid => fail "Bad substitution".toList
    | .keep =>
      present
      return kept
    | .length =>
      present
      return Part.ofValue quoted (decimal
        (if isList then k.parameters.length else (value?.getD []).length))
    | .default orEmpty => if lacks orEmpty then instead else return kept
    | .replace orEmpty =>
      if lacks orEmpty then return if quoted then [.quotes] else [] else instead
    | .assign orEmpty =>
      if ! lacks orEmpty then return kept
      let value := Part.bytes (← expand h fuel (withHome k word))
      if ! isName name then fail (name ++ ": bad variable name".toList)
      assign name value false
      return Part.ofValue quoted value
    | .demand orEmpty =>
      if ! lacks orEmpty then return kept
      let message := Part.bytes (← expand h fuel word)
      fail (name ++ ": ".toList ++ if word.isEmpty then
        ("parameter not set" ++ if orEmpty then " or null" else "").toList else message)
    | .trimFront longest =>
      present
      let pattern := Wild.ofMarks (Part.marks (← expand h fuel word))
      return Part.ofValue quoted (Wild.trimFront pattern longest (value?.getD []))
    | .trimBack longest =>
      present
      let pattern := Wild.ofMarks (Part.marks (← expand h fuel word))
      return Part.ofValue quoted (Wild.trimBack pattern longest (value?.getD []))
termination_by structural fuel => fuel

/-- The output of a command without the line breaks at its end. -/
def outputOf (h : Host) (script : Command) : (fuel : Nat) → Routine Bytes
  | 0 => return []
  | fuel + 1 => do
    let n ← newWriter
    let descriptors := (← own).descriptors
    let status ← always
      (do
        connect 1 (some (.writer n))
        inSubshell h false script fuel)
      (update fun k => { k with descriptors })
    update fun k => { k with outputStatus := status }
    let b := (← drain n).filter (· != '\x00')
    return (b.reverse.dropWhile (· == '\n')).reverse
termination_by structural fuel => fuel

def valueOfWord (h : Host) (w : Word) : (fuel : Nat) → Routine Bytes
  | 0 => return []
  | fuel + 1 => do return Part.bytes (← expand h fuel (withHome (← own) w))
termination_by structural fuel => fuel

def fieldsOfWord (h : Host) (w : Word) : (fuel : Nat) → Routine (List Bytes)
  | 0 => return []
  | fuel + 1 => do
    let parts ← expand h fuel (withHome (← own) w)
    let k ← own
    let fields := fieldsOf k.separators parts
    if k.options.elem 'f' then return fields.map fun field => field.map (·.1)
    let fs ← files
    return fields.flatMap (paths fs)
termination_by structural fuel => fuel

/-- The fields of words; where `assigning`, those that assign are not split. -/
def fieldsOfWords (h : Host) (assigning : Bool) : (fuel : Nat) → List Word → Routine (List Bytes)
  | 0, _ => return []
  | _, [] => return []
  | fuel + 1, w :: rest => do
    let first ← match if assigning then assignment? w else none with
      | some (name, value) => do
        pure [name ++ '=' :: (← valueOfWord h value fuel)]
      | none => fieldsOfWord h w fuel
    return first ++ (← fieldsOfWords h assigning fuel rest)
termination_by structural fuel _ => fuel

/-- The fields of the words up to the first that has any, and the words left. -/
def firstFields (h : Host) : (fuel : Nat) → List Word → Routine (List Bytes × List Word)
  | 0, _ => return ([], [])
  | _, [] => return ([], [])
  | fuel + 1, w :: rest => do
    match ← fieldsOfWord h w fuel with
    | [] => firstFields h fuel rest
    | fields => return (fields, rest)
termination_by structural fuel _ => fuel

def targets (h : Host) : (fuel : Nat) → List Redirect → Routine (List (Nat × Opening × Bytes))
  | 0, _ => return []
  | _, [] => return []
  | fuel + 1, .mk descriptor opening w :: rest => do
    let target ← if opening = .document then
        pure (Part.bytes (← expand h fuel w))
      else valueOfWord h w fuel
    let isDescriptor := match target with
      | [c] => c.isDigit || c = '-'
      | _ => false
    if opening = .duplicate && ! isDescriptor then fail "Syntax error: Bad fd number".toList
    return (descriptor, opening, target) :: (← targets h fuel rest)
termination_by structural fuel _ => fuel

/-- Runs a step with redirections, which may be `kept` behind it, or another one if they cannot be
carried out. -/
def withRedirects (h : Host) (kept : Bool) (found : List Redirect) (step : Routine Nat)
    (failed : Nat → Routine Nat) : (fuel : Nat) → Routine Nat
  | 0 => return 0
  | fuel + 1 => do
    let opened ← targets h fuel found
    let descriptors := (← own).descriptors
    always
      (do
        let problem ← catching
          (do
            for (descriptor, opening, target) in opened do redirect descriptor opening target
            pure none)
          fun f => match f with
            | .fault status => pure (some status)
            | f => throw f
        match problem with
        | some status => failed status
        | none => step)
      (if kept || found.isEmpty then pure () else update fun k => { k with descriptors })
termination_by structural fuel => fuel

/-- Runs a command as another shell does it, and comes to its status. -/
def inSubshell (h : Host) (tested : Bool) (c : Command) : (fuel : Nat) → Routine Nat
  | 0 => return 0
  | fuel + 1 =>
    apart do
      update fun k => { k with
        traps := k.traps.filter fun (_, action) => action.isEmpty, loops := 0 }
      ending h (execute h tested fuel c) fuel
termination_by structural fuel => fuel

/-- Runs a step to the end of its shell, which may have something left to do then. -/
def ending (h : Host) (step : Routine Nat) : (fuel : Nat) → Routine Nat
  | 0 => return 0
  | fuel + 1 => do
    let settled := fun (step : Routine Nat) =>
      catching step fun f => match f with
        | .exit status | .fault status | .back status => pure (status % 256)
        | .killed n => throw (.killed n)
        | .leave _ | .goOn _ => return (← own).status
    let status ← settled step
    let k ← own
    match k.traps.lookup 0 with
    | none | some [] => return status
    | some action =>
      update fun k => { k with traps := k.traps.filter (·.1 ≠ 0), status, running := none }
      settled do
        let _ ← runSource h false action fuel
        return status
termination_by structural fuel => fuel

/-- Sees to the signals that have been caught. -/
def attend (h : Host) : (fuel : Nat) → Routine Unit
  | 0 => return
  | fuel + 1 => do
    let k ← own
    match k.caught with
    | [] => return
    | signal :: rest =>
      update fun k => { k with caught := rest }
      match k.traps.lookup signal with
      | some action =>
        let _ ← runSource h false action fuel
        update fun l => { l with status := k.status }
      | none => pure ()
      attend h fuel
termination_by structural fuel => fuel

/-- Runs the lines of a script that is given as text. -/
def runSource (h : Host) (tested : Bool) (source : Bytes) : (fuel : Nat) → Routine Nat
  | 0 => return 0
  | fuel + 1 => runLines h tested { rest := source } 0 fuel
termination_by structural fuel => fuel

/-- Runs the lines that are left of a script; `status` is that of the last command so far. -/
def runLines (h : Host) (tested : Bool) (i : Input) (status : Nat) :
    (fuel : Nat) → Routine Nat
  | 0 => return status
  | fuel + 1 => do
    match readLine { i with aliases := (← own).aliases } with
    | .error fault =>
      update fun k => { k with line := fault.line }
      fail ("Syntax error: ".toList ++ fault.message)
    | .ok none => return status
    | .ok (some (.nothing, i)) => runLines h tested i status fuel
    | .ok (some (c, i)) =>
      let status ← execute h tested fuel c
      runLines h tested i status fuel
termination_by structural fuel => fuel

/-- Runs a command, and comes to its status. With `tested` nothing follows from its failure. -/
def execute (h : Host) (tested : Bool) : (fuel : Nat) → Command → Routine Nat
  | 0, _ => return 0
  | _, .nothing => return (← own).status
  | fuel + 1, c => do
    let settle := fun (status : Nat) => do
      update fun k => { k with status }
      attend h fuel
      return status
    let checked := fun (status : Nat) => do
      let _ ← settle status
      if status ≠ 0 && ! tested && (← isSet 'e') then throw (.exit status)
      return status
    if ← isSet 'n' then return 0
    attend h fuel
    match c with
    | .nothing => return (← own).status
    | .simple line assignments words found =>
      checked (← simple h tested line assignments words found fuel)
    | .pipeline all => checked (← pipe h tested none fuel all)
    | .negated c => settle (if (← execute h true fuel c) = 0 then 1 else 0)
    | .joined a .after b =>
      let _ ← execute h tested fuel a
      execute h tested fuel b
    | .joined a joint b =>
      let status ← execute h true fuel a
      if (status = 0) = (joint = .ifSuccessful) then execute h tested fuel b else return status
    | .background c =>
      let descriptors := (← own).descriptors
      connect 0 (some .nowhere)
      let status ← always (inSubshell h false c fuel) (update fun k => { k with descriptors })
      update fun k =>
        { k with jobs := (processId + k.jobs.length + 1, status) :: k.jobs }
      settle 0
    | .subshell line c found =>
      update fun k => { k with line }
      let status ← withRedirects h false found (inSubshell h tested c fuel) pure fuel
      checked status
    | .redirected line c found =>
      update fun k => { k with line }
      settle (← withRedirects h false found (execute h tested fuel c) pure fuel)
    | .choice condition success failure =>
      if (← execute h true fuel condition) = 0 then execute h tested fuel success
      else match failure with
        | .nothing => settle 0
        | failure => execute h tested fuel failure
    | .loop inverted condition body =>
      settle (← inLoop (repeatedly h tested inverted condition body 0 fuel))
    | .each line name words body =>
      update fun k => { k with line }
      let values ← fieldsOfWords h false fuel words
      settle (← inLoop (forEach h tested name body 0 fuel values))
    | .select line word branches =>
      update fun k => { k with line }
      let value ← valueOfWord h word fuel
      settle (← select h tested value fuel branches)
    | .function name body =>
      update fun k => { k with functions := (name, body) :: k.functions.filter (·.1 ≠ name) }
      settle 0
termination_by structural fuel _ => fuel

def select (h : Host) (tested : Bool) (value : Bytes) : (fuel : Nat) → List Branch → Routine Nat
  | 0, _ => return 0
  | _, [] => return 0
  | fuel + 1, .mk patterns body :: rest => do
    if ← selects h value fuel patterns then
      match body with
      | .nothing => return 0
      | body => execute h tested fuel body
    else select h tested value fuel rest
termination_by structural fuel _ => fuel

/-- Whether one of some patterns matches a value. -/
def selects (h : Host) (value : Bytes) : (fuel : Nat) → List Word → Routine Bool
  | 0, _ => return false
  | _, [] => return false
  | fuel + 1, w :: rest => do
    let marks := Part.marks (← expand h fuel (withHome (← own) w))
    if Wild.isMatch (Wild.ofMarks marks) value then return true
    selects h value fuel rest
termination_by structural fuel _ => fuel

/-- Runs a loop as long as its condition lets it. -/
def repeatedly (h : Host) (tested inverted : Bool) (condition body : Command) (status : Nat) :
    (fuel : Nat) → Routine Nat
  | 0 => return status
  | fuel + 1 => do
    let (result, goesOn) ← round do
      let asked ← execute h true fuel condition
      if (asked = 0) = inverted then return 256 else execute h tested fuel body
    if result = 256 then return status
    else if goesOn then repeatedly h tested inverted condition body result fuel
    else return result
termination_by structural fuel => fuel

/-- Runs a loop for each of some values. -/
def forEach (h : Host) (tested : Bool) (name : Bytes) (body : Command) (status : Nat) :
    (fuel : Nat) → List Bytes → Routine Nat
  | 0, _ => return status
  | _, [] => return status
  | fuel + 1, value :: rest => do
    assign name value false
    let (status, goesOn) ← round (execute h tested fuel body)
    if goesOn then forEach h tested name body status fuel rest else return status
termination_by structural fuel _ => fuel

/-- Runs commands each of which reads what the one before it wrote. -/
def pipe (h : Host) (tested : Bool) (input : Option Bytes) :
    (fuel : Nat) → List Command → Routine Nat
  | 0, _ => return 0
  | _, [] => return 0
  | fuel + 1, c :: rest => do
    let descriptors := (← own).descriptors
    let reconnect := update fun k => { k with descriptors }
    match input with
    | some b => connect 0 (some (← newReader b))
    | none => pure ()
    match rest with
    | [] => always (inSubshell h tested c fuel) reconnect
    | rest =>
      let n ← newWriter
      connect 1 (some (.writer n))
      let _ ← always (inSubshell h tested c fuel) reconnect
      let b ← drain n
      pipe h tested (some b) fuel rest
termination_by structural fuel _ => fuel

def simple (h : Host) (tested : Bool) (line : Nat) (assignments : List (Bytes × Word))
    (words : List Word) (found : List Redirect) : (fuel : Nat) → Routine Nat
  | 0 => return 0
  | fuel + 1 => do
    update fun k => { k with line, outputStatus := 0 }
    let (first, left) ← firstFields h fuel words
    let name := first.head?
    let k ← own
    let isFunction := name.any fun n => (k.functions.lookup n).isSome
    let isSpecial := name.any specialNames.contains
    let assigns := name.any fun n => ["export", "readonly", "local"].contains (String.ofList n)
    let rest ← fieldsOfWords h (assigns && ! isFunction) fuel left
    let all := first ++ rest
    let isExec := name = some "exec".toList
    let run := do
      match all with
      | [] =>
        let values ← assignAll h false fuel assignments
        traceCommand values []
        return (← own).outputStatus
      | name :: args =>
        if isSpecial then
          let values ← assignAll h (isExec && ! args.isEmpty) fuel assignments
          traceCommand values all
          call h tested name args isFunction true fuel
        else withHidden do
          for (name, _) in assignments do hide name
          let values ← assignAll h true fuel assignments
          traceCommand values all
          call h tested name args isFunction false fuel
    let refused := fun (status : Nat) =>
      if isSpecial then throw (.fault status) else pure status
    withRedirects h isExec found run refused fuel
termination_by structural fuel => fuel

def assignAll (h : Host) (exported : Bool) : (fuel : Nat) → List (Bytes × Word) →
    Routine (List (Bytes × Bytes))
  | 0, _ => return []
  | _, [] => return []
  | fuel + 1, (name, w) :: rest => do
    let value ← valueOfWord h w fuel
    assign name value exported
    return (name, value) :: (← assignAll h exported fuel rest)
termination_by structural fuel _ => fuel

def call (h : Host) (tested : Bool) (name : Bytes) (args : List Bytes)
    (isFunction isSpecial : Bool) : (fuel : Nat) → Routine Nat
  | 0 => return 0
  | fuel + 1 => do
    let k ← own
    match if isFunction then k.functions.lookup name else none with
    | some body =>
      if deepest ≤ k.depth then
        fail "Maximum function recursion depth (1000) reached".toList
      update fun k => { k with parameters := args, loops := 0, depth := k.depth + 1 }
      always
        (catching (execute h tested fuel body) fun f => match f with
          | .back status => pure status
          | f => throw f)
        (update fun l =>
          { l with parameters := k.parameters, loops := k.loops, depth := k.depth })
    | none =>
      if Builtin.isBuiltin name then
        update fun k => { k with running := some name }
        always
          (catching (builtin h tested name args fuel) fun f => match f with
            | .fault status => if isSpecial then throw (.fault status) else pure status
            | f => throw f)
          (update fun l => { l with running := k.running })
      else match ← findTool h name with
        | .ok tool => runTool tool name args
        | .error (message, status) =>
          complain message
          return status
termination_by structural fuel => fuel

/-- Runs a command of the shell itself. -/
def builtin (h : Host) (tested : Bool) (name : Bytes) (args : List Bytes) :
    (fuel : Nat) → Routine Nat
  | 0 => return 0
  | fuel + 1 => do
    match String.ofList name with
    | "eval" =>
      if args.isEmpty then return 0
      runSource h tested ([' '].intercalate args) fuel
    | "." =>
      let (_, args) ← Builtin.optionsOf "" args
      match args with
      | [] => return 0
      | path :: _ =>
        if ! path.elem '/' then fail (path ++ ": not found".toList)
        match (← files).read (Bytes.toText path) with
        | .error e =>
          fail ("cannot open ".toList ++ path ++ ": ".toList ++ openingFault false e)
        | .ok content =>
          catching (runSource h false (Bytes.ofArray content) fuel) fun f => match f with
            | .back status => pure status
            | f => throw f
    | "exec" =>
      let (_, args) ← Builtin.optionsOf "" args
      match args with
      | [] => return 0
      | name :: args =>
        update fun k => { k with traps := k.traps.filter fun (n, _) => n ≠ 0 }
        match ← findTool h name with
        | .ok tool => throw (.exit (← runTool tool name args))
        | .error (message, status) =>
          complain message
          throw (.exit status)
    | "command" =>
      let (options, args) ← Builtin.optionsOf "pvV" args
      match args with
      | [] => return 0
      | name :: rest =>
        if options.any fun (c, _) => c = 'v' || c = 'V' then
          describe h (options.any (·.1 == 'V')) name
        else
          update fun k => { k with running := none }
          call h tested name rest false false fuel
    | "hash" =>
      let (_, args) ← Builtin.optionsOf "rv" args
      let mut status := 0
      for name in args do
        if ! Builtin.isBuiltin name && ((← own).functions.lookup name).isNone then
          match ← findTool h name with
          | .ok _ => pure ()
          | .error _ =>
            complain (name ++ ": not found".toList)
            status := 1
      return status
    | "type" =>
      let mut status := 0
      for name in args do
        let found ← describe h true name
        status := max status found
      return status
    | _ =>
      match Builtin.find? name with
      | some command => command args
      | none => return 127
termination_by structural fuel => fuel

end

end AmbientDecls.Toolbox.Shell
