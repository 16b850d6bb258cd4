import AmbientDecls.Log.Event

/-!
# Logged results

A logged result is a value or an error together with the events on the way to it. Events that come
before an error are kept.
-/

namespace AmbientDecls

/-- A result with the events on the way to it, in order. -/
structure Logged (ε α : Type) where
  events : List Event
  result : Except ε α

namespace Logged

variable {ε ε' α β : Type}

def ok (a : α) : Logged ε α := ⟨[], .ok a⟩

def error (e : ε) : Logged ε α := ⟨[], .error e⟩

def ofExcept (r : Except ε α) : Logged ε α := ⟨[], r⟩

/-- The result after some events. -/
def after (r : Logged ε α) (events : List Event) : Logged ε α := ⟨events ++ r.events, r.result⟩

/-- Goes on with the value if there is one. -/
def bind (r : Logged ε α) (f : α → Logged ε β) : Logged ε β :=
  match r.result with
  | .error e => ⟨r.events, .error e⟩
  | .ok a => (f a).after r.events

def mapError (f : ε → ε') (r : Logged ε α) : Logged ε' α := ⟨r.events, r.result.mapError f⟩

end Logged

end AmbientDecls
