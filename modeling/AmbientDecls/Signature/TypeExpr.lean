import AmbientDecls.Text.Basic

/-!
# Type expressions

The types of declared parameters. Besides named types there are callbacks and records, which hold
parameters themselves. A parameter prints as `name: type`, with a question mark after the name of
an optional one.
-/

namespace AmbientDecls

/-- A named parameter or field with a type from `τ`. -/
structure Param (τ : Type) where
  name : String
  optional : Bool
  type : τ
deriving DecidableEq, Repr, Inhabited

inductive TypeExpr where
  /-- A type known by its name. -/
  | named (name : String)
  /-- A function that is called with these parameters and returns nothing. -/
  | callback (params : List (Param TypeExpr))
  /-- An object with these fields. -/
  | record (fields : List (Param TypeExpr))
deriving Inhabited

namespace TypeExpr

mutual

def text : TypeExpr → Text
  | named name => name.toList
  | callback params => '(' :: textOfParams params ++ ") => void".toList
  | record fields => '{' :: textOfParams fields ++ ['}']

/-- The text of a parameter list, with a comma and a space between each two. -/
def textOfParams : List (Param TypeExpr) → Text
  | [] => []
  | [p] => textOfParam p
  | p :: q :: rest => textOfParam p ++ ", ".toList ++ textOfParams (q :: rest)

def textOfParam : Param TypeExpr → Text
  | ⟨name, optional, type⟩ =>
    name.toList ++ (if optional then ['?'] else []) ++ ": ".toList ++ type.text

end

end TypeExpr

end AmbientDecls
