import AmbientDecls.Metadata.Table

/-!
# Documentation metadata

The metadata of an API is a table of documented classes, each with its properties and methods.
Absent optional texts are `none`; an absent class name or member list is empty.
-/

namespace AmbientDecls

/-- One entry of a method's parameter documentation. `type` is the documented token, such as
`Number` or `Function`. -/
structure Argument where
  name : String
  type : Option String := none
  isOptional : Bool := false
  description : Option String := none
deriving DecidableEq, Repr, Inhabited

structure ReturnValue where
  type : Option String := none
  description : Option String := none
deriving DecidableEq, Repr, Inhabited

structure Method where
  name : String
  description : Option String := none
  arguments : List Argument := []
  returnValues : List ReturnValue := []
deriving DecidableEq, Repr, Inhabited

/-- A documented property. The summary is free text that may hold a type token between braces. -/
structure Property where
  name : String
  description : Option String := none
  summary : Option String := none
deriving DecidableEq, Repr, Inhabited

/-- A documented class with its own members and those of its instances. -/
structure ClassDoc where
  name : String := ""
  description : Option String := none
  filename : Option String := none
  superClass : Option String := none
  classProperties : List Property := []
  instanceProperties : List Property := []
  classMethods : List Method := []
  instanceMethods : List Method := []
deriving DecidableEq, Repr, Inhabited

/-- The name that a class is declared under: its own, or its key in the table if it has none. -/
def ClassDoc.displayName (c : ClassDoc) (key : String) : String :=
  if c.name = "" then key else c.name

structure Metadata where
  classes : Table ClassDoc := Table.empty
deriving Inhabited

end AmbientDecls
