import Mathlib.Tactic.Lemma

/-!
# Optional texts

Documentation treats an optional text that is empty like one that is absent, so a proof about an
optional text has three cases: absent, empty, and given (`optionalText_cases`).
-/

namespace AmbientDecls

@[elab_as_elim]
theorem optionalText_cases {P : Option String → Prop} (absent : P none) (empty : P (some ""))
    (given : ∀ s, s ≠ "" → P (some s)) (t : Option String) : P t := by
  cases t with
  | none => exact absent
  | some s =>
    by_cases hempty : s = ""
    · rw [hempty]
      exact empty
    · exact given s hempty

/-- What a text gives, unless it is absent or empty. -/
def ifGiven {α : Type} (t : Option String) (f : String → List α) : List α :=
  match t with
  | none => []
  | some s => if s = "" then [] else f s

lemma ifGiven_of_ne {α : Type} {s : String} (h : s ≠ "") (f : String → List α) :
    ifGiven (some s) f = f s := if_neg h

lemma map_ifGiven {α β : Type} (g : α → β) (t : Option String) (f : String → List α) :
    (ifGiven t f).map g = ifGiven t fun s => (f s).map g := by
  cases t using optionalText_cases with
  | absent => rfl
  | empty => rfl
  | given s hs => rw [ifGiven_of_ne hs, ifGiven_of_ne hs]

lemma mem_of_mem_ifGiven {α : Type} {x : α} {t : Option String} {f : String → List α}
    (h : x ∈ ifGiven t f) : ∃ s ∈ t, x ∈ f s := by
  cases t using optionalText_cases with
  | absent => exact absurd h List.not_mem_nil
  | empty => exact absurd h List.not_mem_nil
  | given s hs =>
    rw [ifGiven_of_ne hs] at h
    exact ⟨s, rfl, h⟩

/-- The texts are the same, or one is empty and the other absent. -/
inductive SameText : Option String → Option String → Prop where
  | refl (t : Option String) : SameText t t
  | emptied : SameText none (some "")
  | removed : SameText (some "") none

namespace SameText

variable {t u : Option String} (h : SameText t u)

include h

lemma ifGiven_eq {α : Type} (f : String → List α) : ifGiven t f = ifGiven u f := by
  cases h <;> rfl

lemma filter_eq {p : String → Bool} (hp : p "" = false) : t.filter p = u.filter p := by
  have hnone : (some "").filter p = none := by
    rw [Option.filter_some, hp]
    rfl
  cases h with
  | refl => rfl
  | emptied => exact hnone.symm
  | removed => exact hnone

end SameText

end AmbientDecls
