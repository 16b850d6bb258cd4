import AmbientDecls.Text.Quoted

/-!
# Events

What a run reports on the way. Every event has a level, a part of the program that it comes from,
and a line of text.
-/

namespace AmbientDecls

/-- How much an event matters, from the most to the least. -/
inductive Level where
  | error
  | warn
  | info
  | debug
  | trace
deriving DecidableEq, Repr, Inhabited

namespace Level

/-- The place of a level among the levels, from one. -/
def rank : Level → Nat
  | error => 1
  | warn => 2
  | info => 3
  | debug => 4
  | trace => 5

/-- The name of a level in log lines. -/
def name : Level → String
  | error => "ERROR"
  | warn => "WARN"
  | info => "INFO"
  | debug => "DEBUG"
  | trace => "TRACE"

end Level

/-- Something that happened in a run. -/
inductive Event where
  /-- A pattern stands for no file. -/
  | noFilesMatched (pattern : Text)
  /-- A file was read that holds so many classes. -/
  | loaded (path : Text) (classes : Nat)
  /-- A class of a file takes the place of one that was there. -/
  | duplicateClass (key : String) (path : Text)
  /-- The class with this name is being declared. -/
  | emittingClass (name : String)
  /-- Grouping left fewer parameters than there were arguments. -/
  | foldedArguments (method : String) (before after : Nat)
  /-- The raw document is complete. -/
  | emitted (classes bytes : Nat)
  /-- An external formatter is about to run. -/
  | runningFormatter (program : Text) (args : List Text)
deriving DecidableEq, Repr, Inhabited

namespace Event

def level : Event → Level
  | noFilesMatched _ => .warn
  | loaded .. => .info
  | duplicateClass .. => .warn
  | emittingClass _ => .debug
  | foldedArguments .. => .trace
  | emitted .. => .info
  | runningFormatter .. => .debug

/-- The part of the program that an event comes from, below the program itself. -/
def origin : Event → String
  | noFilesMatched _ => ""
  | loaded .. => "::load"
  | duplicateClass .. => "::load"
  | emittingClass _ => "::emit"
  | foldedArguments .. => "::emit::member"
  | emitted .. => ""
  | runningFormatter .. => "::format"

/-- The names of the parts that an event's line is made of. -/
def fields : Event → List String
  | noFilesMatched _ => ["message", "pattern"]
  | loaded .. => ["message", "path", "classes"]
  | duplicateClass .. => ["message", "class", "path"]
  | emittingClass _ => ["message", "class"]
  | foldedArguments .. => ["message", "method", "before", "after"]
  | emitted .. => ["message", "classes", "bytes"]
  | runningFormatter .. => ["message", "program", "args"]

/-- Quoted texts between brackets. -/
def quoteList (ts : List Text) : Text :=
  '[' :: Text.join ", ".toList (ts.map Text.quote) ++ [']']

def text : Event → Text
  | noFilesMatched pattern => "no files matched pattern=".toList ++ pattern
  | loaded path classes =>
    "loaded metadata path=".toList ++ path ++ " classes=".toList ++ Nat.toDigits 10 classes
  | duplicateClass key path =>
    "duplicate class, later definition wins class=".toList ++ key.toList ++ " path=".toList ++ path
  | emittingClass name => "emitting class class=".toList ++ Text.quote name.toList
  | foldedArguments method before after =>
    "folded arguments method=".toList ++ method.toList ++ " before=".toList ++
      Nat.toDigits 10 before ++ " after=".toList ++ Nat.toDigits 10 after
  | emitted classes bytes =>
    "emitted declarations classes=".toList ++ Nat.toDigits 10 classes ++ " bytes=".toList ++
      Nat.toDigits 10 bytes
  | runningFormatter program args =>
    "running external formatter program=".toList ++ program ++ " args=".toList ++ quoteList args

def line (e : Event) : Text := e.level.name.toList ++ ' ' :: e.text

end Event

end AmbientDecls
