import AmbientDecls.Declaration.OfMetadata
import AmbientDecls.Proofs.Metadata.Table
import AmbientDecls.Proofs.Text.Optional
import Mathlib.Data.List.Induction

/-!
# Unions of return types

A method returns the union of its documented types, each where it first occurs. The union is told by
the types of the return values in order, so a value without a type, or one with a type that stood
before, makes no difference to it.
-/

namespace AmbientDecls

/-- The entries of a list without repetition, in the order of their first occurrences. -/
structure IsFirstOccurrences (xs us : List String) : Prop where
  mem : ∀ x, x ∈ us ↔ x ∈ xs
  order : us.Pairwise fun x y => xs.idxOf x < xs.idxOf y

lemma IsFirstOccurrences.nodup {xs us : List String} (h : IsFirstOccurrences xs us) : us.Nodup := by
  refine h.order.imp fun {x y} hlt heq => ?_
  rw [heq] at hlt
  exact absurd hlt (Nat.lt_irrefl _)

/-- An entry at the end is a first occurrence if it did not occur before it. -/
lemma eraseDups_concat (xs : List String) (x : String) :
    (xs ++ [x]).eraseDups = if x ∈ xs then xs.eraseDups else xs.eraseDups ++ [x] := by
  by_cases hx : x ∈ xs
  · rw [if_pos hx, eraseDups_append_cons_of_mem hx, List.append_nil]
  · have hremove : [x].removeAll xs = [x] := by simp [List.removeAll, hx]
    rw [if_neg hx, List.eraseDups_append, hremove]
    rfl

/-- The induction is on the end of the list: what comes last changes no place in front of it. -/
theorem isFirstOccurrences_eraseDups (xs : List String) : IsFirstOccurrences xs xs.eraseDups := by
  refine ⟨fun x => List.mem_eraseDups, ?_⟩
  induction xs using List.reverseRecOn with
  | nil => exact .nil
  | append_singleton xs x ih =>
    have hplace : ∀ y ∈ xs, (xs ++ [x]).idxOf y = xs.idxOf y := fun y hy =>
      List.idxOf_append_of_mem hy
    have hbefore : xs.eraseDups.Pairwise fun y z => (xs ++ [x]).idxOf y < (xs ++ [x]).idxOf z := by
      refine ih.imp_of_mem fun {y z} hy hz hlt => ?_
      rwa [hplace y (List.mem_eraseDups.mp hy), hplace z (List.mem_eraseDups.mp hz)]
    rw [eraseDups_concat]
    split
    · exact hbefore
    · next hx =>
      rw [List.pairwise_append]
      refine ⟨hbefore, List.pairwise_singleton _ _, fun y hy z hz => ?_⟩
      have hy' : y ∈ xs := List.mem_eraseDups.mp hy
      have hlast : (xs ++ [x]).idxOf x = xs.length := by
        rw [List.idxOf_append_of_notMem hx, List.idxOf_cons_self, Nat.add_zero]
      rw [List.mem_singleton.mp hz, hplace y hy', hlast]
      exact List.idxOf_lt_length_of_mem hy'

/-- The declared type of a return value, unless it has none. -/
def ReturnValue.declaredType? (r : ReturnValue) : Option String :=
  match r.type with
  | none => none
  | some token => if token = "" then none else some (mapType (some token) .other)

lemma ReturnValue.declaredType?_eq {r : ReturnValue} {token : String} (h : r.type = some token)
    (hne : token ≠ "") : r.declaredType? = some (mapType (some token) .other) := by
  rw [declaredType?, h]
  exact if_neg hne

/-- A value has a type if its token is neither absent nor empty. -/
lemma ReturnValue.declaredType?_eq_filter (r : ReturnValue) :
    r.declaredType? = (r.type.filter (· ≠ "")).map fun token => mapType (some token) .other := by
  rw [declaredType?]
  cases r.type using optionalText_cases with
  | absent => rfl
  | empty => rfl
  | given token hne => simp [hne, Option.filter_some]

lemma returnTypes_eq (rs : List ReturnValue) :
    returnTypes rs = (rs.filterMap ReturnValue.declaredType?).eraseDups := by
  have hdeclared := funext ReturnValue.declaredType?_eq_filter
  rw [returnTypes, hdeclared, List.filter_filterMap, List.map_filterMap]

lemma returnType_eq (rs : List ReturnValue) :
    returnType rs =
      if rs = [] then "void".toList
      else if returnTypes rs = [] then "any".toList
      else Text.join " | ".toList ((returnTypes rs).map String.toList) := by
  rw [returnType]
  simp only [List.isEmpty_iff]
  split
  · rfl
  · split
    · next hnil => rw [if_pos hnil]
    · next hne => rw [if_neg hne]

/-- The declared type is told by the types of the values, and by whether there is a value. -/
lemma returnType_congr {rs qs : List ReturnValue} (hnil : rs = [] ↔ qs = [])
    (htypes : returnTypes rs = returnTypes qs) : returnType rs = returnType qs := by
  simp only [returnType_eq, htypes, hnil]

section Insertion

variable {before after : List ReturnValue} {r : ReturnValue}

lemma returnType_insert_untyped (hne : before ++ after ≠ []) (hr : r.declaredType? = none) :
    returnType (before ++ r :: after) = returnType (before ++ after) := by
  apply returnType_congr
  · exact iff_of_false (by simp) hne
  · rw [returnTypes_eq, returnTypes_eq, List.filterMap_append, List.filterMap_append,
      List.filterMap_cons_none hr]

lemma returnType_insert_repeated {t : String} (hr : r.declaredType? = some t)
    (ht : ∃ q ∈ before, q.declaredType? = some t) :
    returnType (before ++ r :: after) = returnType (before ++ after) := by
  have hmem : t ∈ before.filterMap ReturnValue.declaredType? := List.mem_filterMap.mpr ht
  apply returnType_congr
  · obtain ⟨q, hq, -⟩ := ht
    have hbefore : before ≠ [] := List.ne_nil_of_mem hq
    exact iff_of_false (by simp) (by simp [hbefore])
  · rw [returnTypes_eq, returnTypes_eq, List.filterMap_append, List.filterMap_append,
      List.filterMap_cons_some hr, eraseDups_append_cons_of_mem hmem]

lemma returnType_append_self (rs : List ReturnValue) : returnType (rs ++ rs) = returnType rs := by
  apply returnType_congr
  · rw [List.append_eq_nil_iff, and_self_iff]
  · have hremove : ∀ ts : List String, ts.removeAll ts = [] := by simp [List.removeAll]
    rw [returnTypes_eq, returnTypes_eq, List.filterMap_append, List.eraseDups_append, hremove]
    exact List.append_nil _

end Insertion

/-- Nothing documented is `void`, nothing typed is `any`, and otherwise the declared type is the
union of the documented types, each once and where it first occurs. So a value without a type
changes nothing in a list that has a value, a value whose type stands in front of it changes nothing
anywhere, and neither does the whole list a second time. -/
theorem returnType_union (rs : List ReturnValue) :
    IsFirstOccurrences (rs.filterMap ReturnValue.declaredType?) (returnTypes rs) ∧
    (returnTypes rs).Nodup ∧
    (∀ r ∈ rs, ∀ token ∈ r.type, token ≠ "" → mapType (some token) .other ∈ returnTypes rs) ∧
    returnType rs =
      (if rs = [] then "void".toList
      else if returnTypes rs = [] then "any".toList
      else Text.join " | ".toList ((returnTypes rs).map String.toList)) ∧
    (∀ before after r, rs = before ++ after → rs ≠ [] → r.declaredType? = none →
      returnType (before ++ r :: after) = returnType rs) ∧
    (∀ before after r t, rs = before ++ after → r.declaredType? = some t →
      (∃ q ∈ before, q.declaredType? = some t) →
      returnType (before ++ r :: after) = returnType rs) ∧
    returnType (rs ++ rs) = returnType rs := by
  have hfirst : IsFirstOccurrences (rs.filterMap ReturnValue.declaredType?) (returnTypes rs) := by
    rw [returnTypes_eq]
    exact isFirstOccurrences_eraseDups _
  refine ⟨hfirst, hfirst.nodup, fun r hr token htoken hne => ?_, returnType_eq rs, ?_, ?_,
    returnType_append_self rs⟩
  · rw [hfirst.mem, List.mem_filterMap]
    exact ⟨r, hr, ReturnValue.declaredType?_eq htoken hne⟩
  · rintro before after r rfl hne hr
    exact returnType_insert_untyped hne hr
  · rintro before after r t rfl hr ht
    exact returnType_insert_repeated hr ht

/-- One type under two tokens, and values without a type in front and at the end. -/
theorem returnType_union_aliases :
    let rs : List ReturnValue :=
      [{}, { type := some "Range" }, { type := some "Boolean" }, { type := some "" }]
    returnType rs = "Range | boolean".toList ∧
      "boolean" ∈ returnTypes rs ∧
      returnType ({ type := some "" } :: rs) = "Range | boolean".toList ∧
      returnType (rs.take 3 ++ { type := some "Bool" } :: rs.drop 3) = "Range | boolean".toList ∧
      returnType (rs ++ rs) = "Range | boolean".toList := by
  intro rs
  obtain ⟨-, -, hmem, heq, huntyped, hrepeated, hself⟩ := returnType_union rs
  have htypes : returnTypes rs = ["Range", "boolean"] := by decide +kernel
  have hunion : returnType rs = "Range | boolean".toList := by
    rw [heq, htypes]
    rfl
  have hfront := huntyped [] rs { type := some "" } rfl (List.cons_ne_nil _ _) rfl
  have hthird := hrepeated (rs.take 3) (rs.drop 3) { type := some "Bool" } "boolean" rfl rfl
    ⟨{ type := some "Boolean" }, by simp [rs], rfl⟩
  rw [← hunion]
  exact ⟨rfl, hmem { type := some "Boolean" } (by simp [rs]) "Boolean" rfl (by decide), hfront,
    hthird, hself⟩

end AmbientDecls
