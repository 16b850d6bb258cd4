import AmbientDecls.Metadata.Table
import Mathlib.Data.List.Nodup

/-!
# Insertion into tables

A table is told by its keys in order and by the value under each key (`Table.ext_get?`). Inserting
entries keeps the place of a key's first insertion and the value of its last, so it does not matter
whether entries are first gathered in a table of their own (`Table.insertMany_insertMany`).
-/

namespace AmbientDecls

section FirstOccurrences

variable {α : Type} [DecidableEq α] {ks ls : List α}

lemma eraseDups_of_nodup (h : ks.Nodup) : ks.eraseDups = ks := by
  induction ks with
  | nil => rfl
  | cons k ks ih =>
    rw [List.nodup_cons] at h
    have hfilter : ks.filter (fun l => ! l == k) = ks := by
      rw [List.filter_eq_self]
      intro l hl
      have hne : l ≠ k := fun heq => h.1 (heq ▸ hl)
      simpa using hne
    rw [List.eraseDups_cons, hfilter, ih h.2]

/-- A key that stands before is no first occurrence. -/
lemma eraseDups_append_cons_of_mem {k : α} (h : k ∈ ks) :
    (ks ++ k :: ls).eraseDups = (ks ++ ls).eraseDups := by
  have hremove : (k :: ls).removeAll ks = ls.removeAll ks := by simp [List.removeAll, h]
  rw [List.eraseDups_append, List.eraseDups_append, hremove]

/-- Of distinct keys behind others, those are first occurrences that are not among the others. -/
lemma eraseDups_append_of_nodup (hks : ks.Nodup) (hls : ls.Nodup) :
    (ks ++ ls).eraseDups = ks ++ ls.filter (fun l => ! ks.contains l) := by
  rw [List.eraseDups_append, eraseDups_of_nodup hks]
  exact congrArg (ks ++ ·) (eraseDups_of_nodup (hls.filter _))

end FirstOccurrences

namespace Table

variable {α : Type}

lemma lookup_cons_of_ne {k l : String} (h : k ≠ l) (v : α) (es : List (String × α)) :
    ((l, v) :: es).lookup k = es.lookup k := by
  rw [List.lookup_cons, beq_eq_false_iff_ne.mpr h]

lemma lookup_insertEntry (key : String) (value : α) (es : List (String × α)) (k : String) :
    (insertEntry key value es).lookup k = if k = key then some value else es.lookup k := by
  induction es with
  | nil =>
    by_cases hk : k = key
    · rw [if_pos hk, hk, insertEntry, List.lookup_cons_self]
    · rw [if_neg hk, insertEntry, lookup_cons_of_ne hk]
  | cons e es ih =>
    obtain ⟨l, v⟩ := e
    by_cases hl : l = key
    · subst hl
      rw [insertEntry, if_pos rfl]
      by_cases hk : k = l
      · rw [if_pos hk, hk, List.lookup_cons_self]
      · rw [if_neg hk, lookup_cons_of_ne hk, lookup_cons_of_ne hk]
    · rw [insertEntry, if_neg hl]
      by_cases hk : k = l
      · rw [hk, if_neg hl, List.lookup_cons_self, List.lookup_cons_self]
      · rw [lookup_cons_of_ne hk, lookup_cons_of_ne hk, ih]

lemma get?_insert (t : Table α) (key : String) (value : α) (k : String) :
    (t.insert key value).get? k = if k = key then some value else t.get? k :=
  lookup_insertEntry key value t.entries k

lemma lookup_eq_none_of_notMem {es : List (String × α)} {k : String} (h : k ∉ es.map Prod.fst) :
    es.lookup k = none := by
  rw [List.lookup_eq_none_iff]
  intro e he
  have hne : k ≠ e.1 := fun heq => h (heq ▸ List.mem_map_of_mem he)
  simpa using hne

lemma entries_ext {es fs : List (String × α)} (hkeys : es.map Prod.fst = fs.map Prod.fst)
    (hnodup : (es.map Prod.fst).Nodup) (hlookup : ∀ k, es.lookup k = fs.lookup k) : es = fs := by
  induction es generalizing fs with
  | nil => exact (List.map_eq_nil_iff.mp hkeys.symm).symm
  | cons e es ih =>
    obtain ⟨k, v⟩ := e
    obtain ⟨⟨l, w⟩, fs, rfl, rfl, htail⟩ := List.map_eq_cons_iff.mp hkeys.symm
    rw [List.map_cons, List.nodup_cons] at hnodup
    have hvalue := hlookup l
    rw [List.lookup_cons_self, List.lookup_cons_self, Option.some.injEq] at hvalue
    have hrest : ∀ k, es.lookup k = fs.lookup k := by
      intro k
      by_cases hk : k = l
      · rw [hk, lookup_eq_none_of_notMem hnodup.1, lookup_eq_none_of_notMem (htail ▸ hnodup.1)]
      · have hcons := hlookup k
        rwa [lookup_cons_of_ne hk, lookup_cons_of_ne hk] at hcons
    rw [hvalue, ih htail.symm hnodup.2 hrest]

/-- Two tables with the same keys in order and the same values are the same. -/
theorem ext_get? {t u : Table α} (hkeys : t.keys = u.keys) (hget : ∀ k, t.get? k = u.get? k) :
    t = u := by
  have hentries : t.entries = u.entries := entries_ext hkeys t.nodup hget
  cases t
  cases u
  subst hentries
  rfl

/-! ### Many insertions -/

lemma nodup_keys (t : Table α) : t.keys.Nodup := t.nodup

lemma insertMany_cons (t : Table α) (e : String × α) (es : List (String × α)) :
    t.insertMany (e :: es) = (t.insert e.1 e.2).insertMany es := rfl

lemma insertMany_append (t : Table α) (es fs : List (String × α)) :
    t.insertMany (es ++ fs) = (t.insertMany es).insertMany fs := List.foldl_append

/-- Keys stand where they were first inserted. -/
theorem keys_insertMany (t : Table α) (es : List (String × α)) :
    (t.insertMany es).keys = (t.keys ++ es.map Prod.fst).eraseDups := by
  induction es generalizing t with
  | nil =>
    rw [List.map_nil, List.append_nil, eraseDups_of_nodup t.nodup_keys]
    rfl
  | cons e es ih =>
    rw [insertMany_cons, ih, keys_insert, List.map_cons]
    by_cases he : e.1 ∈ t.keys
    · rw [if_pos he, eraseDups_append_cons_of_mem he]
    · rw [if_neg he, ← List.append_cons]

/-- Values are those that were inserted last. -/
theorem get?_insertMany (t : Table α) {es : List (String × α)} (hes : (es.map Prod.fst).Nodup)
    (k : String) : (t.insertMany es).get? k = (es.lookup k).or (t.get? k) := by
  induction es generalizing t with
  | nil => rfl
  | cons e es ih =>
    obtain ⟨l, v⟩ := e
    rw [List.map_cons, List.nodup_cons] at hes
    rw [insertMany_cons, ih _ hes.2, get?_insert]
    by_cases hk : k = l
    · rw [if_pos hk, hk, lookup_eq_none_of_notMem hes.1, List.lookup_cons_self]
      rfl
    · rw [if_neg hk, lookup_cons_of_ne hk]

/-- A table is what its entries make. -/
theorem empty_insertMany_entries (t : Table α) : empty.insertMany t.entries = t := by
  refine ext_get? ?_ fun k => ?_
  · rw [keys_insertMany]
    exact eraseDups_of_nodup t.nodup_keys
  · rw [get?_insertMany _ t.nodup]
    exact Option.or_none

/-- One more entry may be inserted before or after the others are inserted into a table. -/
lemma insertMany_insertEntry (t : Table α) (key : String) (value : α) {es : List (String × α)}
    (hes : (es.map Prod.fst).Nodup) :
    t.insertMany (insertEntry key value es) = (t.insertMany es).insert key value := by
  refine ext_get? ?_ fun k => ?_
  · rw [keys_insert, keys_insertMany, keys_insertMany, map_fst_insertEntry]
    -- The key is one of the entries', or of the table's only, or new.
    by_cases hkey : key ∈ es.map Prod.fst
    · have hmem : key ∈ (t.keys ++ es.map Prod.fst).eraseDups :=
        List.mem_eraseDups.mpr (List.mem_append_right _ hkey)
      rw [if_pos hkey, if_pos hmem]
    · rw [if_neg hkey, ← List.append_assoc]
      by_cases hmem : key ∈ t.keys ++ es.map Prod.fst
      · rw [if_pos (List.mem_eraseDups.mpr hmem), eraseDups_append_cons_of_mem hmem,
          List.append_nil]
      · rw [if_neg (mt List.mem_eraseDups.mp hmem), List.eraseDups_append]
        simp [List.removeAll, hmem, eraseDups_of_nodup]
  · rw [get?_insert, get?_insertMany _ (nodup_insertEntry key value hes), get?_insertMany _ hes,
      lookup_insertEntry]
    by_cases hk : k = key
    · rw [if_pos hk, if_pos hk]
      rfl
    · rw [if_neg hk, if_neg hk]

/-- Entries may be gathered in a table before they are inserted. -/
theorem insertMany_insertMany (t u : Table α) (es : List (String × α)) :
    t.insertMany (u.insertMany es).entries = (t.insertMany u.entries).insertMany es := by
  induction es generalizing u with
  | nil => rfl
  | cons e es ih =>
    have hentry : t.insertMany (u.insert e.1 e.2).entries =
        (t.insertMany u.entries).insert e.1 e.2 :=
      insertMany_insertEntry t e.1 e.2 u.nodup
    rw [insertMany_cons, insertMany_cons, ih, hentry]

end Table

end AmbientDecls
