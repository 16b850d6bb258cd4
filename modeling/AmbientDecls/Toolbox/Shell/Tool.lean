import AmbientDecls.Toolbox.Shell.Run

/-!
# The shell

`sh` runs the script that it is given as an argument, that stands in a file, or that it reads from
its input.
-/

namespace AmbientDecls.Toolbox.Shell

/-- How a shell is called. -/
structure Invocation where
  /-- The options that are set. -/
  options : List Char := []
  /-- Whether the script is an argument. -/
  isArgument : Bool := false
  operands : List Bytes := []

def Invocation.read (v : Invocation) : (fuel : Nat) → List Bytes → Except Bytes Invocation
  | 0, args => .ok { v with operands := args }
  | _, [] => .ok v
  | fuel + 1, arg :: rest =>
    match arg with
    | ['-'] | ['-', '-'] => .ok { v with operands := rest }
    | sign :: c :: letters =>
      if sign = '-' || sign = '+' then do
        let on := sign = '-'
        let mut v := v
        let mut rest := rest
        for c in c :: letters do
          let mut letter := some c
          if c = 'c' then
            v := { v with isArgument := true }
            letter := none
          else if c = 'l' then letter := none
          else if c = 'o' then
            letter := none
            match rest with
            | [] => pure ()
            | name :: more =>
              match optionNames.find? fun (_, n) => n.toList == name with
              | some (l, _) => letter := l
              | none => throw ("Illegal option -o ".toList ++ name)
              rest := more
          match letter with
          | none => pure ()
          | some l =>
            if ! optionLetters.elem l then throw ("Illegal option -".toList ++ [l])
            let others := v.options.filter (· != l)
            v := { v with options := if on then l :: others else others }
        Invocation.read v fuel rest
      else .ok { v with operands := arg :: rest }
    | _ => .ok { v with operands := arg :: rest }

/-- How many steps a script may take one inside another. -/
def mostSteps : Nat := 1000000

/-- Where programs are looked for if that is not given. -/
def defaultPath : String := "/usr/local/sbin:/usr/local/bin:/usr/sbin:/usr/bin:/sbin:/bin"

def firstVariables (environment : List (Bytes × Bytes)) (directory : Bytes) :
    List (Bytes × Variable) :=
  let given := environment.map fun (name, value) =>
    (name, ({ value := some value, exported := true } : Variable))
  let own := [("IFS", " \t\n"), ("OPTIND", "1"), ("PS1", "# "), ("PS2", "> "), ("PS4", "+ "),
      ("PPID", toString (processId - 1))] ++
    (if environment.any (·.1 == "PATH".toList) then [] else [("PATH", defaultPath)])
  let own := own.map fun (name, value) =>
    (name.toList, ({ value := some value.toList } : Variable))
  let others := given.filter fun (name, _) => name ≠ "PWD".toList && name ≠ "IFS".toList
  others ++ own ++ [("PWD".toList, { value := some directory, exported := true })]

/-- Runs a script with the state of a shell at its start, and returns how it ended. -/
def runScript (h : Host) (k : Knowledge) (source stdin : Bytes) (files : FileSystem) : Ended :=
  let start : State := {
    world := { readers := #[stdin], writers := #[[], []], files }
    own := { k with descriptors := [(0, .reader 0), (1, .writer 0), (2, .writer 1)] } }
  let (result, s) := (ending h (runSource h false source mostSteps) mostSteps).run start
  let written := fun n => ((s.world.writers[n]?).getD []).reverse.flatten
  { status := match result with
      | .ok status => .code status
      | .error (.killed signal) => .signal signal
      | .error _ => .code 2
    stdout := written 0
    stderr := written 1
    changed := some s.world.files
    unread := (s.world.readers[0]?).getD [] }

end AmbientDecls.Toolbox.Shell

namespace AmbientDecls.Toolbox

/-- Runs a script. -/
def shell (h : Shell.Host) : Tool := fun j =>
  let called := if j.called.isEmpty then ['s', 'h'] else j.called
  let refuse := fun problem : Bytes => j.refuse (called ++ ": 0: ".toList ++ problem) 2
  match ({} : Shell.Invocation).read (j.args.length + 1) j.args with
  | .error problem => refuse problem
  | .ok v =>
    let k : Shell.Knowledge := {
      called, options := v.options
      bindings := Shell.firstVariables j.environment
        (Shell.Builtin.pathOf j.files.workingDirectory) }
    match v.isArgument, v.operands with
    | true, [] => refuse "-c requires an argument".toList
    | true, [script] => Shell.runScript h k script j.stdin j.files
    | true, script :: name :: parameters =>
      Shell.runScript h { k with called := name, parameters } script j.stdin j.files
    | false, name :: parameters =>
      if v.options.elem 's' then
        Shell.runScript h { k with parameters := v.operands } j.stdin [] j.files
      else match j.read name with
        | .ok script =>
          Shell.runScript h { k with called := name, parameters } script j.stdin j.files
        | .error e =>
          refuse ("cannot open ".toList ++ name ++ ": ".toList ++ Shell.openingFault false e)
    | false, [] =>
      Shell.runScript h { k with options := 's' :: v.options.filter (· != 's') } j.stdin [] j.files

end AmbientDecls.Toolbox
