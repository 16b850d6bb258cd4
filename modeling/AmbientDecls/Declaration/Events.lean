import AmbientDecls.Declaration.OfMetadata
import AmbientDecls.Log.Event

/-!
# Events of a declaration

What is reported while a module is declared: every class, and every method whose arguments were
grouped.
-/

namespace AmbientDecls

/-- The event of a method some of whose arguments were grouped. -/
def Method.events (m : Method) : List Event :=
  let before := m.arguments.length
  let after := (groupArguments m.arguments).length
  if after < before then [.foldedArguments m.name before after] else []

def ClassDoc.events (c : ClassDoc) (key : String) : List Event :=
  .emittingClass (c.displayName key) ::
    (c.classMethods ++ c.instanceMethods).flatMap Method.events

def Metadata.events (m : Metadata) : List Event :=
  m.classes.entries.flatMap fun (key, c) => c.events key

end AmbientDecls
