import AmbientDecls.Log.Directive

/-!
# Log filters

A filter tells which events are shown. Of the directives that apply to an event the most specific
one decides, and of several alike the last.
-/

namespace AmbientDecls

/-- Which events are shown. -/
structure LogFilter where
  directives : List Directive
deriving DecidableEq, Repr, Inhabited

namespace LogFilter

def upTo (level : Level) : LogFilter := ⟨[⟨none, none, some level⟩]⟩

/-- The filter for a verbosity: warnings, then information, then details. -/
def ofVerbosity (n : Nat) : LogFilter :=
  upTo (match n with
    | 0 => .warn
    | 1 => .info
    | _ => .debug)

/-- Reads directives that are separated by commas. Without any, only errors are shown. Directives
about spans apply to no event, and are left out once they are read. -/
def parse (t : Text) : Option LogFilter :=
  let words := (t.split (· == ',')).filter (· ≠ [])
  if words.isEmpty then some (upTo .error)
  else (words.mapM Directive.parse).map fun ds => ⟨ds.flatMap Option.toList⟩

/-- The directive that decides for an event. -/
def deciding (f : LogFilter) (program : Text) (e : Event) : Option Directive :=
  (f.directives.filter (·.appliesTo program e)).foldl
    (fun best d =>
      match best with
      | none => some d
      | some b => if d.isAsSpecificAs b then some d else best)
    none

def shows (f : LogFilter) (program : Text) (e : Event) : Bool :=
  match f.deciding program e with
  | some ⟨_, _, some level⟩ => e.level.rank ≤ level.rank
  | _ => false

def lines (f : LogFilter) (program : Text) (events : List Event) : List Text :=
  (events.filter (f.shows program)).map Event.line

end LogFilter

/-- The filter that the environment asks for, if it does and can be read, and otherwise the one for
the verbosity. -/
def chooseFilter (requested : Option String) (verbosity : Nat) : LogFilter :=
  ((requested.map String.toList).bind LogFilter.parse).getD (.ofVerbosity verbosity)

end AmbientDecls
