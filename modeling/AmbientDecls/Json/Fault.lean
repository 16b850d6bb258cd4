import AmbientDecls.Decimal.Notation
import AmbientDecls.Text.Quoted

/-!
# Faults of JSON texts

Why a JSON text cannot be read, and where. A fault is found when some part of the text is still
unread, and its place is told by the number of bytes that the place leaves behind it.
-/

namespace AmbientDecls.Json

/-- The parts of a text that its end may cut short. -/
inductive Part where
  | list
  | object
  | string
  | value
deriving DecidableEq, Repr, Inhabited

/-- What stands where something of another type was expected. -/
inductive Found where
  | null
  | boolean (value : Bool)
  | integer (value : Int)
  | float (value : Float)
  | string (value : Text)
  | sequence
  | map

/-- Why a text cannot be read. -/
inductive Cause where
  /-- The text ends within the part. -/
  | cutShort (part : Part)
  | expectedColon
  | expectedListCommaOrEnd
  | expectedObjectCommaOrEnd
  | expectedIdent
  | expectedValue
  | invalidEscape
  | invalidNumber
  | numberOutOfRange
  | controlCharacter
  | keyMustBeString
  | loneSurrogate
  | unexpectedEndOfEscape
  | trailingComma
  | trailingCharacters
  /-- A value of another type than the expected one. -/
  | mismatch (found : Found) (expected : String)
  | missingField (key : String)
  | duplicateField (key : String)
  /-- An array of `length` values stands for a record whose required field comes after them. -/
  | tooShort (length : Nat) (expected : String) (size : Nat)

/-- A cause, and how many bytes follow the place it was found at. -/
structure Fault where
  cause : Cause
  unread : Nat

namespace Fault

/-- A fault right before the unread text. -/
def before (cause : Cause) (rest : Text) : Fault := ⟨cause, rest.byteSize⟩

/-- A fault at the first byte of the unread text, if there is one. -/
def within (cause : Cause) (rest : Text) : Fault := ⟨cause, rest.byteSize - 1⟩

end Fault

namespace Part

def name : Part → String
  | list => "a list"
  | object => "an object"
  | string => "a string"
  | value => "a value"

end Part

/-- Numbers in messages are positional from `0.00001` on and below ten to the sixteenth. -/
def numberFormat : FloatFormat := ⟨-5, 15⟩

def Found.describe : Found → String
  | null => "null"
  | boolean b => "boolean `" ++ (if b then "true" else "false") ++ "`"
  | integer n => "integer `" ++ toString n ++ "`"
  | float x => "floating point `" ++ String.ofList (numberFormat.float x) ++ "`"
  | string s => "string " ++ String.ofList s.quote
  | sequence => "sequence"
  | map => "map"

def Cause.message : Cause → String
  | cutShort part => "EOF while parsing " ++ part.name
  | expectedColon => "expected `:`"
  | expectedListCommaOrEnd => "expected `,` or `]`"
  | expectedObjectCommaOrEnd => "expected `,` or `\x7d`"
  | expectedIdent => "expected ident"
  | expectedValue => "expected value"
  | invalidEscape => "invalid escape"
  | invalidNumber => "invalid number"
  | numberOutOfRange => "number out of range"
  | controlCharacter => "control character (\\u0000-\\u001F) found while parsing a string"
  | keyMustBeString => "key must be a string"
  | loneSurrogate => "lone leading surrogate in hex escape"
  | unexpectedEndOfEscape => "unexpected end of hex escape"
  | trailingComma => "trailing comma"
  | trailingCharacters => "trailing characters"
  | mismatch found expected => "invalid type: " ++ found.describe ++ ", expected " ++ expected
  | missingField key => "missing field `" ++ key ++ "`"
  | duplicateField key => "duplicate field `" ++ key ++ "`"
  | tooShort length expected size =>
    "invalid length " ++ toString length ++ ", expected " ++ expected ++ " with " ++
      toString size ++ " elements"

/-- A place in a text: the line, counted from one, and the bytes of that line before the place. -/
structure Location where
  line : Nat
  column : Nat
deriving DecidableEq, Repr, Inhabited

/-- The place `offset` bytes after a place, in the text that follows that place. -/
def Location.advance (l : Location) (offset : Nat) : Text → Location
  | [] => l
  | c :: rest =>
    if offset < c.utf8Size then ⟨l.line, l.column + offset⟩
    else
      let next : Location := if c = '\n' then ⟨l.line + 1, 0⟩ else ⟨l.line, l.column + c.utf8Size⟩
      next.advance (offset - c.utf8Size) rest

def Fault.location (f : Fault) (whole : Text) : Location :=
  Location.advance ⟨1, 0⟩ (whole.byteSize - f.unread) whole

def Cause.messageAt (cause : Cause) (l : Location) : String :=
  cause.message ++ " at line " ++ toString l.line ++ " column " ++ toString l.column

end AmbientDecls.Json
