import AmbientDecls.Signature.Grouping
import Mathlib.Data.List.Basic

/-!
# Grouped arguments in one pass

Grouping nests arguments in each other, from the last to the first. The text of what it gives is
nevertheless that of one pass over the flat list, from the first to the last: every argument is
written where it stands, one that takes others opens a bracket and writes no comma behind it, and
the brackets are closed at the end (`textOfParams_groupArguments`).
-/

namespace AmbientDecls

/-- What stands around the arguments that another argument takes. -/
structure Brackets where
  opening : Text
  closing : Text

/-- The brackets of an argument that takes what follows it. -/
def Argument.brackets (a : Argument) : Option Brackets :=
  if a.type = some "Function" then some ⟨"(".toList, ") => void".toList⟩
  else if a.type = some "Object" then some ⟨['{'], ['}']⟩
  else none

lemma Argument.brackets_eq {a : Argument} {b : Brackets} (h : a.brackets = some b) :
    a.type = some "Function" ∧ b = ⟨"(".toList, ") => void".toList⟩ ∨
      a.type = some "Object" ∧ b = ⟨['{'], ['}']⟩ := by
  unfold Argument.brackets at h
  by_cases hf : a.type = some "Function"
  · rw [if_pos hf, Option.some.injEq] at h
    exact .inl ⟨hf, h.symm⟩
  · rw [if_neg hf] at h
    by_cases ho : a.type = some "Object"
    · rw [if_pos ho, Option.some.injEq] at h
      exact .inr ⟨ho, h.symm⟩
    · rw [if_neg ho] at h
      cases h

def Argument.label (a : Argument) : Text :=
  a.name.toList ++ (if a.isOptional then ['?'] else []) ++ ": ".toList

/-- The brackets of the argument at this place, from zero; the last one takes nothing. -/
def bracketsAt (as : List Argument) (i : Nat) : Option Brackets :=
  if i + 1 < as.length then as[i]?.bind Argument.brackets else none

def separatorAt (as : List Argument) (i : Nat) : Text :=
  if i = 0 ∨ (bracketsAt as (i - 1)).isSome then [] else ", ".toList

/-- What is written where the argument `a` stands. -/
def pieceAt (as : List Argument) (i : Nat) (a : Argument) : Text :=
  separatorAt as i ++ a.label ++
    match bracketsAt as i with
    | some b => b.opening
    | none => (mapType a.type .argument).toList

/-- What is written at the end for the argument at this place. -/
def closingAt (as : List Argument) (i : Nat) : Text := (bracketsAt as i).elim [] Brackets.closing

lemma groupArguments_eq_nil_iff (as : List Argument) : groupArguments as = [] ↔ as = [] := by
  cases as with
  | nil => exact ⟨fun _ => rfl, fun _ => rfl⟩
  | cons a as =>
    have hne : groupArguments (a :: as) ≠ [] := by
      rw [groupArguments]
      split <;> exact List.cons_ne_nil _ _
    exact ⟨fun h => absurd h hne, fun h => nomatch h⟩

/-- An argument that takes others is the only parameter, and has them in its brackets. -/
theorem groupArguments_cons_of_brackets {a : Argument} {b : Brackets} (h : a.brackets = some b)
    {as : List Argument} (hne : as ≠ []) :
    ∃ type, groupArguments (a :: as) = [⟨a.name, a.isOptional, type⟩] ∧
      type.text = b.opening ++ TypeExpr.textOfParams (groupArguments as) ++ b.closing := by
  obtain ⟨p, ps, hps⟩ :=
    List.exists_cons_of_ne_nil (mt (groupArguments_eq_nil_iff as).mp hne)
  rcases a.brackets_eq h with ⟨hf, rfl⟩ | ⟨ho, rfl⟩
  · exact ⟨.callback (groupArguments as), by simp only [groupArguments, hps, hf], rfl⟩
  · exact ⟨.record (groupArguments as), by simp only [groupArguments, hps, ho], rfl⟩

/-- Any other argument stands beside those that follow it. -/
theorem groupArguments_cons_of_plain {a : Argument} {as : List Argument}
    (h : a.brackets = none ∨ as = []) :
    groupArguments (a :: as) =
      ⟨a.name, a.isOptional, .named (mapType a.type .argument)⟩ :: groupArguments as := by
  rw [groupArguments]
  split
  · next hf hp =>
    rcases h with h | rfl
    · rw [Argument.brackets, if_pos hf] at h
      cases h
    · cases hp
  · next ho hp =>
    rcases h with h | rfl
    · rw [Argument.brackets, ho] at h
      cases h
    · cases hp
  · rfl

namespace TypeExpr

lemma textOfParams_cons (p : Param TypeExpr) (ps : List (Param TypeExpr)) :
    textOfParams (p :: ps) =
      textOfParam p ++ if ps = [] then [] else ", ".toList ++ textOfParams ps := by
  cases ps with
  | nil => simp [textOfParams]
  | cons q ps => simp [textOfParams]

theorem textOfParams_cons_of_brackets {a : Argument} {b : Brackets} (h : a.brackets = some b)
    {as : List Argument} (hne : as ≠ []) :
    textOfParams (groupArguments (a :: as)) =
      a.label ++ b.opening ++ textOfParams (groupArguments as) ++ b.closing := by
  obtain ⟨type, hg, htype⟩ := groupArguments_cons_of_brackets h hne
  rw [hg, textOfParams, textOfParam, htype, Argument.label]
  simp only [List.append_assoc]

theorem textOfParams_cons_of_plain {a : Argument} {as : List Argument}
    (h : a.brackets = none ∨ as = []) :
    textOfParams (groupArguments (a :: as)) =
      a.label ++ (mapType a.type .argument).toList ++
        if as = [] then [] else ", ".toList ++ textOfParams (groupArguments as) := by
  rw [groupArguments_cons_of_plain h, textOfParams_cons, textOfParam, text, Argument.label]
  simp only [groupArguments_eq_nil_iff]

end TypeExpr

/-! ### The pass -/

section Places

variable (a : Argument) (as : List Argument)

lemma bracketsAt_zero : bracketsAt (a :: as) 0 = if as = [] then none else a.brackets := by
  cases as with
  | nil => rfl
  | cons b as => simp [bracketsAt]

lemma bracketsAt_succ (i : Nat) : bracketsAt (a :: as) (i + 1) = bracketsAt as i := by
  simp [bracketsAt]

lemma separatorAt_succ_succ (i : Nat) :
    separatorAt (a :: as) (i + 2) = separatorAt as (i + 1) := by
  have hl : i + 2 ≠ 0 := by omega
  have hr : i + 1 ≠ 0 := by omega
  simp only [separatorAt, hl, hr, false_or, Nat.add_sub_cancel]
  rw [show i + 2 - 1 = i + 1 by omega, bracketsAt_succ]

lemma pieceAt_succ_succ (i : Nat) (b : Argument) :
    pieceAt (a :: as) (i + 2) b = pieceAt as (i + 1) b := by
  unfold pieceAt
  rw [separatorAt_succ_succ, bracketsAt_succ]

/-- The pieces below the first are those of the list without it, behind another separator. -/
lemma flatten_pieces_succ :
    (as.mapIdx fun i => pieceAt (a :: as) (i + 1)).flatten =
      if as = [] then [] else separatorAt (a :: as) 1 ++ (as.mapIdx (pieceAt as)).flatten := by
  cases as with
  | nil => rfl
  | cons b as =>
    have hhead : pieceAt (a :: b :: as) 1 b =
        separatorAt (a :: b :: as) 1 ++ pieceAt (b :: as) 0 b := by
      unfold pieceAt
      rw [bracketsAt_succ, List.append_assoc, List.append_assoc]
      rfl
    have htail : (fun i => pieceAt (a :: b :: as) (i + 1 + 1)) =
        fun i => pieceAt (b :: as) (i + 1) := by
      funext i c
      exact pieceAt_succ_succ a (b :: as) i c
    rw [if_neg (List.cons_ne_nil b as), List.mapIdx_cons, List.mapIdx_cons, List.flatten_cons,
      List.flatten_cons, htail, hhead, List.append_assoc]

lemma flatten_closings_cons :
    ((a :: as).mapIdx fun i _ => closingAt (a :: as) i).reverse.flatten =
      (as.mapIdx fun i _ => closingAt as i).reverse.flatten ++ closingAt (a :: as) 0 := by
  have htail : (fun i (_ : Argument) => closingAt (a :: as) (i + 1)) = fun i _ => closingAt as i := by
    funext i b
    unfold closingAt
    rw [bracketsAt_succ]
  rw [List.mapIdx_cons, List.reverse_cons, List.flatten_append, List.flatten_singleton, htail]

end Places

/-- The parameters of a signature are printed in one pass over the documented arguments: every
argument once and in its place, and then the closing brackets from the last to the first. -/
theorem textOfParams_groupArguments (as : List Argument) :
    TypeExpr.textOfParams (groupArguments as) =
      (as.mapIdx (pieceAt as)).flatten ++ (as.mapIdx fun i _ => closingAt as i).reverse.flatten := by
  induction as with
  | nil => rfl
  | cons a as ih =>
    have hzero := bracketsAt_zero a as
    have hfirst : separatorAt (a :: as) 0 = [] := rfl
    rw [List.mapIdx_cons, List.flatten_cons, flatten_pieces_succ, flatten_closings_cons, pieceAt,
      closingAt, hfirst, List.nil_append, hzero]
    by_cases hnil : as = []
    · rw [TypeExpr.textOfParams_cons_of_plain (.inr hnil)]
      subst hnil
      simp
    · rw [if_neg hnil, if_neg hnil]
      have hsep : separatorAt (a :: as) 1 = if a.brackets.isSome then [] else ", ".toList := by
        simp [separatorAt, hzero, hnil]
      cases hb : a.brackets with
      | none =>
        rw [TypeExpr.textOfParams_cons_of_plain (.inl hb), if_neg hnil, ih, hsep, hb]
        simp
      | some b =>
        rw [TypeExpr.textOfParams_cons_of_brackets hb hnil, ih, hsep, hb]
        simp

-- A callback with a record in it, and a last argument that takes nothing.
example :
    let as : List Argument :=
      [⟨"n", none, false, none⟩, ⟨"cb", some "Function", true, none⟩,
        ⟨"e", some "Object", false, none⟩, ⟨"x", some "Point", false, none⟩,
        ⟨"f", some "Function", false, none⟩]
    as.mapIdx (pieceAt as) =
        ["n: any", ", cb?: (", "e: \x7b", "x: IPoint", ", f: Function"].map String.toList ∧
      (as.mapIdx fun i _ => closingAt as i) =
        ["", ") => void", "\x7d", "", ""].map String.toList := ⟨rfl, rfl⟩

end AmbientDecls
