/-!
# Sets of code points by their boundaries

A set of code points is written down as the increasing list of those at which membership changes,
beginning outside.
-/

namespace AmbientDecls.Text

/-- Whether `n` is in the set with these boundaries: an odd number of them is at most `n`. -/
def isInside (n : Nat) : List Nat → Bool
  | [] => false
  | b :: rest => if n < b then false else ! isInside n rest

end AmbientDecls.Text
