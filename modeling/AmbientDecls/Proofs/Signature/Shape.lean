import AmbientDecls.Proofs.Signature.Folding
import Mathlib.Data.Nat.Find
import Mathlib.Order.Bounds.Basic

/-!
# The shape of a grouped list

The parameters of a signature are the documented arguments up to the first that takes others, and
that one is the last of them, whatever the arguments behind it take from each other. Whether any
argument takes others is told by the number of parameters.
-/

namespace AmbientDecls

/-- A parameter with its type as it is printed. -/
def Param.printed (p : Param TypeExpr) : Param Text := ⟨p.name, p.optional, p.type.text⟩

/-- The parameter of an argument that stands beside those that follow it. -/
def Argument.plainParam (a : Argument) : Param Text :=
  ⟨a.name, a.isOptional, (mapType a.type .argument).toList⟩

/-- The parameter of an argument that has those that follow it in its brackets. -/
def Argument.takingParam (a : Argument) (b : Brackets) (rest : List Argument) : Param Text :=
  ⟨a.name, a.isOptional, b.opening ++ TypeExpr.textOfParams (groupArguments rest) ++ b.closing⟩

lemma printed_cons_of_brackets {a : Argument} {b : Brackets} (h : a.brackets = some b)
    {as : List Argument} (hne : as ≠ []) :
    (groupArguments (a :: as)).map Param.printed = [a.takingParam b as] := by
  obtain ⟨type, hg, htype⟩ := groupArguments_cons_of_brackets h hne
  rw [hg, List.map_singleton, Param.printed, htype]
  rfl

lemma printed_cons_of_plain {a : Argument} {as : List Argument} (h : a.brackets = none ∨ as = []) :
    (groupArguments (a :: as)).map Param.printed =
      a.plainParam :: (groupArguments as).map Param.printed := by
  rw [groupArguments_cons_of_plain h, List.map_cons]
  rfl

lemma plain_of_bracketsAt_zero {a : Argument} {as : List Argument}
    (h : bracketsAt (a :: as) 0 = none) : a.brackets = none ∨ as = [] := by
  rw [bracketsAt_zero] at h
  split at h
  · next hnil => exact .inr hnil
  · exact .inl h

/-- The first argument that takes others ends the list. The induction is on the arguments before
it: each of them is a parameter of its own. -/
theorem printed_of_first {as : List Argument} {k : Nat} {b : Brackets}
    (hk : bracketsAt as k = some b) (hfirst : ∀ i < k, bracketsAt as i = none) :
    ∃ a, as[k]? = some a ∧ (groupArguments as).map Param.printed =
      (as.take k).map Argument.plainParam ++ [a.takingParam b (as.drop (k + 1))] := by
  induction as generalizing k with
  | nil => cases hk
  | cons a as ih =>
    cases k with
    | zero =>
      rw [bracketsAt_zero] at hk
      split at hk
      · cases hk
      · next hne => exact ⟨a, rfl, printed_cons_of_brackets hk hne⟩
    | succ k =>
      rw [bracketsAt_succ] at hk
      have hrest : ∀ i < k, bracketsAt as i = none := by
        intro i hi
        rw [← bracketsAt_succ a]
        exact hfirst (i + 1) (by omega)
      obtain ⟨c, hc, hprinted⟩ := ih hk hrest
      refine ⟨c, hc, ?_⟩
      rw [printed_cons_of_plain (plain_of_bracketsAt_zero (hfirst 0 (by omega))), hprinted]
      rfl

theorem printed_of_none {as : List Argument} (h : ∀ i, bracketsAt as i = none) :
    (groupArguments as).map Param.printed = as.map Argument.plainParam := by
  induction as with
  | nil => rfl
  | cons a as ih =>
    have hrest : ∀ i, bracketsAt as i = none := by
      intro i
      rw [← bracketsAt_succ a]
      exact h (i + 1)
    rw [printed_cons_of_plain (plain_of_bracketsAt_zero (h 0)), ih hrest, List.map_cons]

lemma map_name_groupArguments_isPrefix (as : List Argument) :
    (groupArguments as).map Param.name <+: as.map Argument.name := by
  induction as with
  | nil => exact List.nil_prefix
  | cons a as ih =>
    by_cases hplain : a.brackets = none ∨ as = []
    · rw [groupArguments_cons_of_plain hplain, List.map_cons, List.map_cons]
      exact List.cons_prefix_cons.mpr ⟨rfl, ih⟩
    · rw [not_or] at hplain
      obtain ⟨b, hb⟩ := Option.ne_none_iff_exists'.mp hplain.1
      obtain ⟨type, hg, -⟩ := groupArguments_cons_of_brackets hb hplain.2
      rw [hg, List.map_singleton, List.map_cons]
      exact List.cons_prefix_cons.mpr ⟨rfl, List.nil_prefix⟩

lemma length_of_bracketsAt {as : List Argument} {i : Nat} {b : Brackets}
    (h : bracketsAt as i = some b) : i + 1 < as.length := by
  unfold bracketsAt at h
  split at h
  · assumption
  · cases h

lemma isLeast_bracketsAt_iff {as : List Argument} {k : Nat} :
    IsLeast {i | (bracketsAt as i).isSome} k ↔
      (∃ b, bracketsAt as k = some b) ∧ ∀ i < k, bracketsAt as i = none := by
  refine and_congr Option.isSome_iff_exists ⟨fun h i hi => ?_, fun h i hi => ?_⟩
  · by_contra hsome
    have hle := h (Option.isSome_iff_ne_none.mpr hsome)
    omega
  · by_contra hlt
    rw [Set.mem_ofPred_eq, h i (by omega)] at hi
    cases hi

lemma length_of_isLeast {as : List Argument} {k : Nat}
    (h : IsLeast {i | (bracketsAt as i).isSome} k) :
    (groupArguments as).length = k + 1 ∧ k + 1 < as.length := by
  obtain ⟨⟨b, hb⟩, hnone⟩ := isLeast_bracketsAt_iff.mp h
  obtain ⟨a, -, hprinted⟩ := printed_of_first hb hnone
  have hlength := congrArg List.length hprinted
  have hshort := length_of_bracketsAt hb
  rw [List.length_map, List.length_append, List.length_map, List.length_take,
    List.length_singleton] at hlength
  omega

lemma length_groupArguments_lt_iff (as : List Argument) :
    (groupArguments as).length < as.length ↔ ∃ i, (bracketsAt as i).isSome := by
  by_cases hsome : ∃ i, (bracketsAt as i).isSome
  · have hleast : IsLeast {i | (bracketsAt as i).isSome} (Nat.find hsome) :=
      ⟨Nat.find_spec hsome, fun i hi => Nat.find_min' hsome hi⟩
    have hlength := length_of_isLeast hleast
    exact iff_of_true (by omega) hsome
  · have hnone : ∀ i, bracketsAt as i = none := fun i =>
      Option.not_isSome_iff_eq_none.mp fun hi => hsome ⟨i, hi⟩
    have hlength := congrArg List.length (printed_of_none hnone)
    rw [List.length_map, List.length_map] at hlength
    exact iff_of_false (by omega) hsome

/-- Grouping ends a parameter list at the first argument that takes others, which has what all the
arguments behind it are grouped to in its brackets; where no argument takes others, every one is a
parameter. So a list gets shorter just if one takes others, and the names of the parameters are
those that the arguments begin with. -/
theorem groupArguments_shape (as : List Argument) :
    (∀ k, IsLeast {i | (bracketsAt as i).isSome} k →
      (groupArguments as).length = k + 1 ∧ ∃ a b, as[k]? = some a ∧ bracketsAt as k = some b ∧
        (groupArguments as).map Param.printed =
          (as.take k).map Argument.plainParam ++ [a.takingParam b (as.drop (k + 1))]) ∧
    ((∀ i, bracketsAt as i = none) →
      (groupArguments as).map Param.printed = as.map Argument.plainParam) ∧
    ((groupArguments as).length < as.length ↔ ∃ i, (bracketsAt as i).isSome) ∧
    (groupArguments as).map Param.name <+: as.map Argument.name := by
  refine ⟨fun k hk => ⟨(length_of_isLeast hk).1, ?_⟩, printed_of_none,
    length_groupArguments_lt_iff as, map_name_groupArguments_isPrefix as⟩
  obtain ⟨⟨b, hb⟩, hnone⟩ := isLeast_bracketsAt_iff.mp hk
  obtain ⟨a, ha, hprinted⟩ := printed_of_first hb hnone
  exact ⟨a, b, ha, hb, hprinted⟩

/-- A record in a callback that is not the first argument, and a list whose last argument has
nothing to take. -/
theorem groupArguments_shape_nested :
    let as : List Argument :=
      [⟨"n", some "Range", false, none⟩, ⟨"cb", some "Function", true, none⟩,
        ⟨"e", some "Object", false, none⟩, ⟨"x", some "Point", false, none⟩]
    let bs : List Argument := [⟨"n", none, true, none⟩, ⟨"f", some "Function", false, none⟩]
    IsLeast {i | (bracketsAt as i).isSome} 1 ∧
      (groupArguments as).map Param.printed =
        [⟨"n", false, "IRange".toList⟩, ⟨"cb", true, "(e: \x7bx: IPoint\x7d) => void".toList⟩] ∧
      (groupArguments as).length < as.length ∧
      (∀ i, bracketsAt bs i = none) ∧
      (groupArguments bs).map Param.printed =
        [⟨"n", true, "any".toList⟩, ⟨"f", false, "Function".toList⟩] := by
  intro as bs
  have hleast : IsLeast {i | (bracketsAt as i).isSome} 1 := by
    refine ⟨rfl, fun i hi => ?_⟩
    cases i with
    | zero => cases hi
    | succ i => omega
  have hnone : ∀ i, bracketsAt bs i = none := by
    intro i
    match i with
    | 0 => rfl
    | i + 1 => exact if_neg (by simp [bs])
  obtain ⟨hfirst, -, hshorter, -⟩ := groupArguments_shape as
  obtain ⟨-, a, b, ha, hb, hprinted⟩ := hfirst 1 hleast
  cases ha
  cases hb
  exact ⟨hleast, hprinted, hshorter.mpr ⟨1, rfl⟩, hnone, (groupArguments_shape bs).2.1 hnone⟩

end AmbientDecls
