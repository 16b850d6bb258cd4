/-!
# Documented type tokens

Documentation names types by tokens of its own, such as `Number` or `Array`. This file gives the
type that a token stands for in a declaration. A token that is no alias names a class or an
interface declared elsewhere and is kept as it is.
-/

namespace AmbientDecls

/-- Where a type token stands. Some aliases hold only for what a method takes. -/
inductive Position where
  /-- A parameter of a method, a callback or a record. -/
  | argument
  /-- A property, a return value or a comment. -/
  | other
deriving DecidableEq, Repr, Inhabited

/-- The declared type of a token. An absent or empty token is `any`. -/
def mapType (token : Option String) (position : Position) : String :=
  match token.getD "", position with
  | "", _ => "any"
  | "Array", _ => "any[]"
  | "array", _ => "any[]"
  | "Promise", _ => "Promise<any>"
  | "Number", _ => "number"
  | "String", _ => "string"
  | "Boolean", _ => "boolean"
  | "Bool", _ => "boolean"
  | "Point", .argument => "IPoint"
  | "Range", .argument => "IRange"
  | name, _ => name

end AmbientDecls
