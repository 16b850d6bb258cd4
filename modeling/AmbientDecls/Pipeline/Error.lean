import AmbientDecls.Files.Pattern
import AmbientDecls.Format.External
import AmbientDecls.Metadata.Load

/-!
# Errors of a run

Why a run fails, with the chain of causes, and the report that shows them. A single cause is
indented; more than one are numbered.
-/

namespace AmbientDecls

inductive RunError where
  | badPattern (pattern : Text) (fault : Pattern.Fault)
  | noInputFiles (patterns : List Text)
  | load (error : LoadError)
  /-- The command line of the formatter has no word. -/
  | noFormatterProgram
  | format (error : FormatError)
  | write (path : Path) (error : OsError)

namespace RunError

def message : RunError → String
  | badPattern pattern _ => "invalid glob pattern: " ++ String.ofList pattern
  | noInputFiles patterns =>
    "no input files matched: " ++ String.ofList (Text.join [' '] patterns)
  | load error => error.message
  | noFormatterProgram => "--formatter must name a program"
  | format _ => "failed to format declarations"
  | write path _ => "failed to write " ++ String.ofList path

/-- The messages of the causes, each caused by the next. -/
def causes : RunError → List String
  | badPattern _ fault => [fault.message]
  | noInputFiles _ => []
  | load error => [error.cause]
  | noFormatterProgram => []
  | format error => error.message :: error.cause?.toList
  | write _ error => [error.message]

/-- A cause after `head`, its further lines indented as far as its first. -/
def indentCause (head cause : Text) : Text :=
  match cause.lines with
  | [] => head
  | first :: rest =>
    head ++ first ++ rest.flatMap fun l => '\n' :: (List.replicate head.length ' ' ++ l)

/-- The causes from number `n` on, each on a line of its own. -/
def numbered (n : Nat) : List String → Text
  | [] => []
  | cause :: rest =>
    indentCause ("    ".toList ++ Nat.toDigits 10 n ++ ": ".toList) cause.toList ++
      '\n' :: numbered (n + 1) rest

def report (e : RunError) : Text :=
  "Error: ".toList ++ e.message.toList ++ '\n' ::
    match e.causes with
    | [] => []
    | [cause] => "\nCaused by:\n".toList ++ indentCause "    ".toList cause.toList ++ ['\n']
    | causes => "\nCaused by:\n".toList ++ numbered 0 causes

end RunError

end AmbientDecls
