import AmbientDecls.Toolbox.Basic

/-!
# Signals

The signals that programs are sent: their numbers, their names, and what becomes of a program that
does nothing about them.
-/

namespace AmbientDecls.Toolbox.Shell

/-- The names of the signals in the order of their numbers; the first stands for the end of a
script. -/
def signalNames : List String :=
  ["EXIT", "HUP", "INT", "QUIT", "ILL", "TRAP", "ABRT", "BUS", "FPE", "KILL", "USR1", "SEGV",
    "USR2", "PIPE", "ALRM", "TERM", "16", "CHLD", "CONT", "STOP", "TSTP", "TTIN", "TTOU",
    "URG", "XCPU", "XFSZ", "VTALRM", "PROF", "WINCH", "IO", "PWR", "SYS"]

def lastSignal : Nat := 64

/-- The signal that is written by its number or its name; its number may be zero. -/
def signal? (b : Bytes) : Option Nat :=
  match number? b with
  | some n => if n ≤ lastSignal then some n else none
  | none =>
    let upper := String.ofList (b.map Char.toUpper)
    signalNames.findIdx? (· == upper)

def signalLabel (n : Nat) : String :=
  (signalNames[n]?).getD (if n = 34 then "RTMIN" else if n = lastSignal then "RTMAX" else
    if n < 50 then "RTMIN+" ++ toString (n - 34) else "RTMAX-" ++ toString (lastSignal - n))

/-- The signals that a program does not notice if it does nothing about them. -/
def isIgnoredAnyway (n : Nat) : Bool := n = 0 || n = 17 || n = 18 || n = 23 || n = 28

/-- The signals that a program can do nothing about. -/
def isUnstoppable (n : Nat) : Bool := n = 9 || n = 19

/-- What is said of a program that a signal ended. -/
def signalText (n : Nat) : String :=
  match n with
  | 1 => "Hangup"
  | 2 => "Interrupt"
  | 3 => "Quit"
  | 4 => "Illegal instruction"
  | 5 => "Trace/breakpoint trap"
  | 6 => "Aborted"
  | 7 => "Bus error"
  | 8 => "Floating point exception"
  | 9 => "Killed"
  | 10 => "User defined signal 1"
  | 11 => "Segmentation fault"
  | 12 => "User defined signal 2"
  | 13 => "Broken pipe"
  | 14 => "Alarm clock"
  | 15 => "Terminated"
  | 16 => "Stack fault"
  | 24 => "CPU time limit exceeded"
  | 25 => "File size limit exceeded"
  | 26 => "Virtual timer expired"
  | 27 => "Profiling timer expired"
  | 29 => "I/O possible"
  | 30 => "Power failure"
  | 31 => "Bad system call"
  | n =>
    if 34 ≤ n then "Real-time signal " ++ toString (n - 34)
    else "Unknown signal " ++ toString n

end AmbientDecls.Toolbox.Shell
