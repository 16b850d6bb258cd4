/-!
# Errors of the operating system

The reasons for which files cannot be opened and programs cannot be run.
-/

namespace AmbientDecls

/-- Why the operating system refuses. -/
inductive OsError where
  | notFound
  | permissionDenied
  | notADirectory
  | isADirectory
  | noSpace
  | brokenPipe
  /-- Any other error, told by what the system says of it. -/
  | other (description : String)
deriving DecidableEq, Repr, Inhabited

/-- The number of an error that has a name here. -/
def OsError.code? : OsError → Option Nat
  | notFound => some 2
  | permissionDenied => some 13
  | notADirectory => some 20
  | isADirectory => some 21
  | noSpace => some 28
  | brokenPipe => some 32
  | other _ => none

def OsError.description : OsError → String
  | notFound => "No such file or directory"
  | permissionDenied => "Permission denied"
  | notADirectory => "Not a directory"
  | isADirectory => "Is a directory"
  | noSpace => "No space left on device"
  | brokenPipe => "Broken pipe"
  | other description => description

def OsError.message (e : OsError) : String :=
  match e.code? with
  | some code => e.description ++ " (os error " ++ toString code ++ ")"
  | none => e.description

/-- The error with a number, of which the system says the description. -/
def OsError.ofCode (code : Nat) (description : String) : OsError :=
  let named := [notFound, permissionDenied, notADirectory, isADirectory, noSpace, brokenPipe]
  (named.find? (·.code? == some code)).getD
    (other (description ++ " (os error " ++ toString code ++ ")"))

theorem OsError.ofCode_of_code? {e : OsError} {code : Nat} (h : e.code? = some code)
    (description : String) : ofCode code description = e := by
  cases e with
  | other _ => cases h
  | notFound | permissionDenied | notADirectory | isADirectory | noSpace | brokenPipe =>
    cases h
    rfl

end AmbientDecls
