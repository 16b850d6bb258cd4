import AmbientDecls.Files.OsError
import AmbientDecls.Layout.Basic
import AmbientDecls.Text.Utf8

/-!
# External formatters

An external formatter is a program that reads a document and writes the formatted one. What came
of running it decides whether its output is taken: it has to run, to end well, to read the whole
document and to write text, and the first of these that fails is reported.
-/

namespace AmbientDecls

/-- How a program ended. -/
inductive ExitStatus where
  | code (n : Nat)
  | signal (n : Nat) (dumpedCore : Bool := false)
deriving DecidableEq, Repr, Inhabited

namespace ExitStatus

/-- Whether the program ended well. -/
def isSuccess (s : ExitStatus) : Bool := s == code 0

def signalName : Nat → Option String
  | 1 => some "SIGHUP"
  | 2 => some "SIGINT"
  | 3 => some "SIGQUIT"
  | 4 => some "SIGILL"
  | 5 => some "SIGTRAP"
  | 6 => some "SIGABRT"
  | 7 => some "SIGBUS"
  | 8 => some "SIGFPE"
  | 9 => some "SIGKILL"
  | 10 => some "SIGUSR1"
  | 11 => some "SIGSEGV"
  | 12 => some "SIGUSR2"
  | 13 => some "SIGPIPE"
  | 14 => some "SIGALRM"
  | 15 => some "SIGTERM"
  | 16 => some "SIGSTKFLT"
  | 17 => some "SIGCHLD"
  | 18 => some "SIGCONT"
  | 19 => some "SIGSTOP"
  | 20 => some "SIGTSTP"
  | 21 => some "SIGTTIN"
  | 22 => some "SIGTTOU"
  | 23 => some "SIGURG"
  | 24 => some "SIGXCPU"
  | 25 => some "SIGXFSZ"
  | 26 => some "SIGVTALRM"
  | 27 => some "SIGPROF"
  | 28 => some "SIGWINCH"
  | 29 => some "SIGIO"
  | 30 => some "SIGPWR"
  | 31 => some "SIGSYS"
  | _ => none

def text : ExitStatus → String
  | code n => "exit status: " ++ toString n
  | signal n dumpedCore =>
    "signal: " ++ toString n ++
      (match signalName n with
        | some name => " (" ++ name ++ ")"
        | none => "") ++
      (if dumpedCore then " (core dumped)" else "")

end ExitStatus

/-- What came of running a program on a document. -/
inductive Execution where
  /-- The program could not be started. -/
  | notStarted (error : OsError)
  /-- The program ran, but its end could not be waited for. -/
  | lost (error : OsError)
  /-- The program ended; `written` tells what kept the document from being handed over whole. -/
  | ended (status : ExitStatus) (stdout stderr : ByteArray) (written : Option OsError)

/-- Why a document could not be formatted. -/
inductive FormatError where
  | layout (fault : Layout.Fault)
  | notStarted (program : Text) (error : OsError)
  | io (program : Text) (error : OsError)
  | failed (program : Text) (status : ExitStatus) (stderr : Text)
  | notUtf8 (fault : Utf8.Fault)
deriving DecidableEq, Repr, Inhabited

def Layout.Fault.message : Layout.Fault → String
  | unbalanced line => "unbalanced closing brace at line " ++ toString line
  | unclosed depth => toString depth ++ " unclosed block(s) at end of document"

namespace FormatError

/-- A program's name between backticks. -/
def named (program : Text) : String := "`" ++ String.ofList program ++ "`"

def message : FormatError → String
  | layout fault => fault.message
  | notStarted program _ => "failed to run formatter " ++ named program
  | io program _ => "I/O error talking to formatter " ++ named program
  | failed program status stderr =>
    "formatter " ++ named program ++ " exited with " ++ status.text ++ ": " ++ String.ofList stderr
  | notUtf8 _ => "formatter output is not valid UTF-8"

def cause? : FormatError → Option String
  | layout _ => none
  | notStarted _ error => some error.message
  | io _ error => some error.message
  | failed .. => none
  | notUtf8 fault => some fault.message

end FormatError

structure Command where
  program : Text
  args : List Text
deriving DecidableEq, Repr, Inhabited

namespace Command

/-- The command of a command line: its first word is the program. -/
def ofLine? (line : Text) : Option Command :=
  match line.words with
  | [] => none
  | program :: args => some ⟨program, args⟩

/-- The formatted document, or the first thing that went wrong. -/
def outcome (command : Command) : Execution → Except FormatError Text
  | .notStarted error => .error (.notStarted command.program error)
  | .lost error => .error (.io command.program error)
  | .ended status stdout stderr written =>
    if ! status.isSuccess then
      .error (.failed command.program status (Utf8.decodeLossy stderr.toList).trim)
    else match written with
      | some error => .error (.io command.program error)
      | none =>
        match Utf8.decode stdout with
        | .ok text => .ok text
        | .error fault => .error (.notUtf8 fault)

end Command

end AmbientDecls
