import AmbientDecls.Json.Value
import AmbientDecls.Proofs.Json.Document
import Mathlib.Data.List.Forall2

/-!
# Reading documents

A reader reads a document as a value if it takes the document off every text that goes on with it,
whatever follows. Each reader is told by the documents that it reads: strings by their spellings,
arrays by their elements, and tables by their entries, of which there may be several under one key.
-/

namespace AmbientDecls.Json

lemma startValue_of_skipSpace {α : Type} {t rest : Text} {c : Char}
    {read : Char → Text → Except Fault (α × Text)} (h : skipSpace t = c :: rest) :
    startValue t read = read c rest := by
  simp only [startValue, h]

namespace Reader

variable {α β : Type}

/-- The reader takes the document off the front of a text as the value. -/
def Reads (r : Reader α) (d : Document) (a : α) : Prop :=
  ∀ ⦃toks : List Text⦄ ⦃t : Text⦄, Spaced (d.tokens ++ toks) t →
    ∃ t', r.run t = .ok (a, t') ∧ Spaced toks t'

lemma Reads.map {r : Reader α} {d : Document} {a : α} (h : r.Reads d a) (f : α → β) :
    (r.map f).Reads d (f a) := by
  intro toks t ht
  obtain ⟨t', hrun, ht'⟩ := h ht
  exact ⟨t', by simp only [Reader.map, hrun], ht'⟩

lemma reads_string {b : StringBody} {s : String} (h : b.Spells s) :
    string.Reads (.string b) s := by
  intro toks t ht
  obtain ⟨t', hskip, ht'⟩ := skipSpace_of_spaced ht rfl
  have hbody : stringBody [] (b.text ++ ['"'] ++ t') = .ok (s.toList, t') := by
    rw [List.append_assoc]
    exact stringBody_of_spells h [] t'
  refine ⟨t', ?_, ht'⟩
  simp only [string, startValue_of_skipSpace hskip, if_true, hbody, String.ofList_toList]

lemma reads_bool (b : Bool) : bool.Reads (.bool b) b := by
  intro toks t ht
  cases b with
  | true =>
    have hword : Spaced (('t' :: "rue".toList) :: toks) t := ht
    obtain ⟨t', hskip, ht'⟩ := skipSpace_of_spaced hword rfl
    refine ⟨t', ?_, ht'⟩
    simp only [bool, startValue_of_skipSpace hskip, if_true, keyword_append]
  | false =>
    have hword : Spaced (('f' :: "alse".toList) :: toks) t := ht
    obtain ⟨t', hskip, ht'⟩ := skipSpace_of_spaced hword rfl
    have hne : 'f' ≠ 't' := by decide
    refine ⟨t', ?_, ht'⟩
    simp only [bool, startValue_of_skipSpace hskip, hne, if_false, if_true, keyword_append]

lemma reads_nullable_null (default : α) (r : Reader α) :
    (nullable default r).Reads .null default := by
  intro toks t ht
  have hword : Spaced (('n' :: "ull".toList) :: toks) t := ht
  obtain ⟨t', hskip, ht'⟩ := skipSpace_of_spaced hword rfl
  refine ⟨t', ?_, ht'⟩
  simp only [nullable, hskip, keyword_append]

lemma Reads.nullable {r : Reader α} {d : Document} {a : α} (h : r.Reads d a) (hd : d ≠ .null)
    (default : α) : (nullable default r).Reads d a := by
  intro toks t ht
  obtain ⟨c, body, hskip, -, hnull, -⟩ := d.exists_skipSpace_eq ht
  obtain ⟨t', hrun, ht'⟩ := h ht
  refine ⟨t', ?_, ht'⟩
  simp only [Reader.nullable, hskip]
  split
  · next heq => exact absurd (hnull (List.cons.inj heq).1) hd
  · exact hrun

/-! ### Arrays and tables -/

lemma elements_end {item : Reader α} {seen : List α} {first : Bool} {t rest : Text}
    (h : nextElement first t = .ok (false, rest)) :
    elements item seen first t = .ok (seen.reverse, rest) := by
  rw [elements]
  split
  · next he => cases h.symm.trans he
  · next he =>
    cases h.symm.trans he
    rfl
  · next he => cases h.symm.trans he

lemma elements_next {item : Reader α} {seen : List α} {first : Bool} {a : α} {t rest rest' : Text}
    (h : nextElement first t = .ok (true, rest)) (hitem : item.run rest = .ok (a, rest')) :
    elements item seen first t = elements item (a :: seen) false rest' := by
  rw [elements]
  split
  · next he => cases h.symm.trans he
  · next he => cases h.symm.trans he
  · next he =>
    cases h.symm.trans he
    split
    · next hi => cases hitem.symm.trans hi
    · next hi =>
      cases hitem.symm.trans hi
      rfl

lemma elements_of_spaced {item : Reader α} {ds : List Document} {xs : List α}
    (h : List.Forall₂ item.Reads ds xs) {toks : List Text} {t : Text} {first : Bool}
    (ht : Spaced (elementTokens first ds ++ toks) t) (seen : List α) :
    ∃ t', elements item seen first t = .ok (seen.reverse ++ xs, t') ∧ Spaced toks t' := by
  induction h generalizing first t seen with
  | nil =>
    obtain ⟨t', hend, ht'⟩ := nextElement_end first ht
    exact ⟨t', by rw [elements_end hend, List.append_nil], ht'⟩
  | @cons d x ds xs hd _ ih =>
    rw [elementTokens_cons_append] at ht
    obtain ⟨t₁, hnext, ht₁⟩ := nextElement_document ht
    obtain ⟨t₂, hrun, ht₂⟩ := hd ht₁
    obtain ⟨t', hrest, ht'⟩ := ih ht₂ (x :: seen)
    refine ⟨t', ?_, ht'⟩
    rw [elements_next hnext hrun, hrest, List.reverse_cons, ← List.append_cons]

/-- An array is read element for element. -/
theorem reads_list {item : Reader α} {ds : List Document} {xs : List α}
    (h : List.Forall₂ item.Reads ds xs) : (list item).Reads (.array ds) xs := by
  intro toks t ht
  obtain ⟨t₁, hskip, ht₁⟩ := skipSpace_of_spaced ht rfl
  obtain ⟨t', hrest, ht'⟩ := elements_of_spaced h ht₁ []
  refine ⟨t', ?_, ht'⟩
  simp only [list, startValue_of_skipSpace hskip, if_true]
  exact hrest

lemma entries_end {item : Reader α} {seen : Table α} {first : Bool} {t rest : Text}
    (h : nextKey first t = .ok (false, rest)) :
    entries item seen first t = .ok (seen, rest) := by
  rw [entries]
  split
  · next he => cases h.symm.trans he
  · next he =>
    cases h.symm.trans he
    rfl
  · next he => cases h.symm.trans he

lemma entries_next {item : Reader α} {seen : Table α} {first : Bool} {a : α} {key : Text}
    {t t₁ t₂ t₃ rest : Text} (h : nextKey first t = .ok (true, t₁))
    (hkey : stringBody [] t₁ = .ok (key, t₂)) (hcolon : colon t₂ = .ok t₃)
    (hitem : item.run t₃ = .ok (a, rest)) :
    entries item seen first t = entries item (seen.insert (String.ofList key) a) false rest := by
  rw [entries]
  split
  · next he => cases h.symm.trans he
  · next he => cases h.symm.trans he
  · next he =>
    cases h.symm.trans he
    split
    · next hk => cases hkey.symm.trans hk
    · next hk =>
      cases hkey.symm.trans hk
      split
      · next hc => cases hcolon.symm.trans hc
      · next hc =>
        cases hcolon.symm.trans hc
        split
        · next hi => cases hitem.symm.trans hi
        · next hi =>
          cases hitem.symm.trans hi
          rfl

/-- The member is an entry of a table: its key spells the entry's, and its value is read as the
entry's. -/
def ReadsEntry (item : Reader α) (m : StringBody × Document) (e : String × α) : Prop :=
  m.1.Spells e.1 ∧ item.Reads m.2 e.2

lemma entries_of_spaced {item : Reader α} {ms : List (StringBody × Document)}
    {es : List (String × α)} (h : List.Forall₂ item.ReadsEntry ms es) {toks : List Text} {t : Text}
    {first : Bool} (ht : Spaced (memberTokens first ms ++ toks) t) (seen : Table α) :
    ∃ t', entries item seen first t = .ok (seen.insertMany es, t') ∧ Spaced toks t' := by
  induction h generalizing first t seen with
  | nil =>
    obtain ⟨t', hend, ht'⟩ := nextKey_end first ht
    exact ⟨t', entries_end hend, ht'⟩
  | @cons m e ms es hm _ ih =>
    obtain ⟨b, d⟩ := m
    obtain ⟨key, a⟩ := e
    obtain ⟨hb, hd⟩ := hm
    rw [memberTokens_cons_append] at ht
    obtain ⟨t₁, t₂, t₃, hnext, hkey, hcolon, ht₃⟩ := exists_key_of_spaced hb ht
    obtain ⟨t₄, hrun, ht₄⟩ := hd ht₃
    obtain ⟨t', hrest, ht'⟩ := ih ht₄ (seen.insert key a)
    refine ⟨t', ?_, ht'⟩
    rw [entries_next hnext hkey hcolon hrun, String.ofList_toList, hrest]
    rfl

/-- A table has the entries of an object, inserted in order. -/
theorem reads_table {item : Reader α} {ms : List (StringBody × Document)} {es : List (String × α)}
    (h : List.Forall₂ item.ReadsEntry ms es) :
    (table item).Reads (.object ms) (Table.empty.insertMany es) := by
  intro toks t ht
  obtain ⟨t₁, hskip, ht₁⟩ := skipSpace_of_spaced ht rfl
  obtain ⟨t', hrest, ht'⟩ := entries_of_spaced h ht₁ Table.empty
  refine ⟨t', ?_, ht'⟩
  simp only [table, startValue_of_skipSpace hskip, if_true]
  exact hrest

end Reader

end AmbientDecls.Json
