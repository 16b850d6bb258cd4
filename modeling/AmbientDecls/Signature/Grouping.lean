import AmbientDecls.Metadata.Basic
import AmbientDecls.Signature.TypeExpr
import AmbientDecls.Signature.TypeToken

/-!
# Grouping of arguments

Documentation lists the parameters of a callback, and the fields of an options record, after the
argument they belong to and in the same flat list. Grouping gives them back to it: a `Function` or
`Object` argument with anything after it takes all that follows.
-/

namespace AmbientDecls

/-- The parameters of a signature for a flat list of documented arguments. -/
def groupArguments : List Argument → List (Param TypeExpr)
  | [] => []
  | a :: rest =>
    let pending := groupArguments rest
    match a.type, pending with
    | some "Function", _ :: _ => [⟨a.name, a.isOptional, .callback pending⟩]
    | some "Object", _ :: _ => [⟨a.name, a.isOptional, .record pending⟩]
    | _, _ => ⟨a.name, a.isOptional, .named (mapType a.type .argument)⟩ :: pending

end AmbientDecls
