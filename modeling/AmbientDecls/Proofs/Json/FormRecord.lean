import AmbientDecls.Proofs.Json.FormReader
import Mathlib.Data.List.Nodup

/-!
# Records and forms

A reader for records takes only documents of a form if its fields are those of the form
(`Schema.HasForm.takes_reader`). The members of an object are taken one after another: what is known
of those that come first is which fields were seen, and `Form.AllowsMembers` says what the others
may be then.
-/

namespace AmbientDecls.Json

/-- The reader of a field takes documents of the field's form, and `null` unless it is required. -/
structure Field.Takes {σ : Type} (required : List String) (f : Field σ) (g : String × Form) :
    Prop where
  key_eq : f.key = g.1
  required_iff : f.required = true ↔ g.1 ∈ required
  read : f.read.Takes fun d => (d = .null → g.1 ∈ required) → g.2.Allows d

namespace Schema

variable {σ : Type} {s : Schema σ}

lemma exists_of_members_ok {seen : List String} {v w : σ} {first : Bool} {t t₁ rest : Text}
    (hnext : nextKey first t = .ok (true, t₁)) (h : s.members seen v first t = .ok (w, rest)) :
    ∃ key t₂ t₃, stringBody [] t₁ = .ok (key, t₂) ∧ colon t₂ = .ok t₃ ∧
      ((s.field? (String.ofList key) = none ∧ ∃ t₄, skipValue t₃ = .ok t₄ ∧
          s.members seen v false t₄ = .ok (w, rest)) ∨
        ∃ f update t₄, s.field? (String.ofList key) = some f ∧ f.key ∉ seen ∧
          f.read.run t₃ = .ok (update, t₄) ∧
          s.members (f.key :: seen) (update v) false t₄ = .ok (w, rest)) := by
  rw [members] at h
  split at h
  · cases h
  · next he => cases hnext.symm.trans he
  · next he =>
    cases hnext.symm.trans he
    split at h
    · cases h
    · next key t₂ hkey =>
      split at h
      · next hfield =>
        split at h
        · cases h
        · next t₃ hcolon =>
          split at h
          · cases h
          · next t₄ hskip =>
            exact ⟨key, t₂, t₃, hkey, hcolon, .inl ⟨hfield, t₄, hskip, h⟩⟩
      · next f hfield =>
        split at h
        · cases h
        · next hseen =>
          split at h
          · cases h
          · next t₃ hcolon =>
            split at h
            · cases h
            · next update t₄ hread =>
              exact ⟨key, t₂, t₃, hkey, hcolon,
                .inr ⟨f, update, t₄, hfield, by simpa using hseen, hread, h⟩⟩

lemma missing_of_members_ok {seen : List String} {v w : σ} {first : Bool} {t t₁ rest : Text}
    (hnext : nextKey first t = .ok (false, t₁)) (h : s.members seen v first t = .ok (w, rest)) :
    s.missing? seen = none ∧ t₁ = rest := by
  rw [members] at h
  split at h
  · cases h
  · next he =>
    cases hnext.symm.trans he
    split at h
    · cases h
    · next hmissing =>
      cases h
      exact ⟨hmissing, rfl⟩
  · next he => cases hnext.symm.trans he

lemma missing?_eq_none_iff {seen : List String} :
    s.missing? seen = none ↔ ∀ f ∈ s.fields, f.required = true → f.key ∈ seen := by
  rw [missing?, List.find?_eq_none]
  constructor
  · intro h f hf hrequired
    have hseen := h f hf
    simpa [hrequired] using hseen
  · intro h f hf
    have hseen := h f hf
    simpa using hseen

end Schema

/-- A string spells one text. -/
lemma StringBody.Spells.unique {b : StringBody} {s s' : String} (h : b.Spells s)
    (h' : b.Spells s') : s = s' := by
  have hs := stringBody_of_spells h [] []
  have hs' := stringBody_of_spells h' [] []
  have heq := (Prod.mk.inj (Except.ok.inj (hs.symm.trans hs'))).1
  exact String.toList_inj.mp heq

/-- The members give fields of the form, each at most once and none of those that are seen already,
and the required ones are given or seen. -/
structure Form.AllowsMembers (required : List String) (fields : List (String × Form))
    (seen : List String) (ms : List (StringBody × Document)) : Prop where
  values : ∀ m ∈ ms, ∀ g ∈ fields, m.1.Spells g.1 → (m.2 = .null → g.1 ∈ required) →
    g.2.Allows m.2
  once : ms.Pairwise fun m n => ∀ g ∈ fields, m.1.Spells g.1 → ¬n.1.Spells g.1
  unseen : ∀ m ∈ ms, ∀ g ∈ fields, m.1.Spells g.1 → g.1 ∉ seen
  given : ∀ key ∈ required, key ∈ seen ∨ ∃ m ∈ ms, m.1.Spells key

namespace Form.AllowsMembers

variable {required seen : List String} {fields : List (String × Form)}
  {ms : List (StringBody × Document)} {m : StringBody × Document} {key : String}

lemma nil (h : ∀ key ∈ required, key ∈ seen) : AllowsMembers required fields seen [] where
  values := List.forall_mem_nil _
  once := .nil
  unseen := List.forall_mem_nil _
  given key hkey := .inl (h key hkey)

lemma unknown (h : AllowsMembers required fields seen ms) (hm : m.1.Spells key)
    (hkey : ∀ g ∈ fields, g.1 ≠ key) : AllowsMembers required fields seen (m :: ms) where
  values := List.forall_mem_cons.mpr
    ⟨fun g hg hspells => absurd (hspells.unique hm) (hkey g hg), h.values⟩
  once := .cons (fun _ _ g hg hspells => absurd (hspells.unique hm) (hkey g hg)) h.once
  unseen := List.forall_mem_cons.mpr
    ⟨fun g hg hspells => absurd (hspells.unique hm) (hkey g hg), h.unseen⟩
  given key hkey := (h.given key hkey).imp_right fun ⟨n, hn, hspells⟩ =>
    ⟨n, List.mem_cons_of_mem m hn, hspells⟩

lemma known {f : String × Form} (hfields : (fields.map Prod.fst).Nodup) (hf : f ∈ fields)
    (h : AllowsMembers required fields (f.1 :: seen) ms) (hm : m.1.Spells f.1)
    (hvalue : (m.2 = .null → f.1 ∈ required) → f.2.Allows m.2) (hseen : f.1 ∉ seen) :
    AllowsMembers required fields seen (m :: ms) := by
  have hunique : ∀ g ∈ fields, m.1.Spells g.1 → g = f := fun g hg hspells =>
    List.inj_on_of_nodup_map hfields hg hf (hspells.unique hm)
  constructor
  · refine List.forall_mem_cons.mpr ⟨?_, h.values⟩
    intro g hg hspells
    rw [hunique g hg hspells]
    exact hvalue
  · refine .cons ?_ h.once
    intro n hn g hg hspells hspells'
    rw [hunique g hg hspells] at hspells'
    exact h.unseen n hn f hf hspells' List.mem_cons_self
  · refine List.forall_mem_cons.mpr ⟨?_, ?_⟩
    · intro g hg hspells
      rw [hunique g hg hspells]
      exact hseen
    · intro n hn g hg hspells hmem
      exact h.unseen n hn g hg hspells (List.mem_cons_of_mem _ hmem)
  · intro key hkey
    rcases h.given key hkey with hmem | ⟨n, hn, hspells⟩
    · rcases List.mem_cons.mp hmem with rfl | hmem
      · exact .inr ⟨m, List.mem_cons_self, hm⟩
      · exact .inl hmem
    · exact .inr ⟨n, List.mem_cons_of_mem m hn, hspells⟩

end Form.AllowsMembers

lemma exists_mem_of_forall₂ {α β : Type} {R : α → β → Prop} {xs : List α} {ys : List β}
    (h : List.Forall₂ R xs ys) {y : β} (hy : y ∈ ys) : ∃ x ∈ xs, R x y := by
  obtain ⟨i, hi, rfl⟩ := List.mem_iff_getElem.mp hy
  have hi' : i < xs.length := h.length_eq ▸ hi
  exact ⟨xs[i], List.getElem_mem hi', h.get hi' hi⟩

namespace Schema

variable {σ : Type} {s : Schema σ}

/-- The schema has the fields of the form. -/
structure HasForm (s : Schema σ) (required : List String) (fields : List (String × Form)) :
    Prop where
  takes : List.Forall₂ (Field.Takes required) s.fields fields
  nodup : (fields.map Prod.fst).Nodup
  required_subset : required ⊆ fields.map Prod.fst

namespace HasForm

variable {required : List String} {fields : List (String × Form)} (h : s.HasForm required fields)

include h

lemma ne_of_field?_eq_none {key : String} (hkey : s.field? key = none) :
    ∀ g ∈ fields, g.1 ≠ key := by
  intro g hg
  obtain ⟨f, hf, htakes⟩ := exists_mem_of_forall₂ h.takes hg
  have hne := List.find?_eq_none.mp hkey f hf
  rw [← htakes.key_eq]
  simpa using hne

lemma exists_form_of_field?_eq_some {key : String} {f : Field σ} (hkey : s.field? key = some f) :
    ∃ g ∈ fields, g.1 = key ∧ f.Takes required g := by
  obtain ⟨g, hg, htakes⟩ := exists_mem_of_forall₂ h.takes.flip (List.mem_of_find?_eq_some hkey)
  have heq := List.find?_some hkey
  exact ⟨g, hg, htakes.key_eq ▸ by simpa using heq, htakes⟩

lemma mem_seen_of_missing?_eq_none {seen : List String} (hmissing : s.missing? seen = none) :
    ∀ key ∈ required, key ∈ seen := by
  intro key hkey
  obtain ⟨g, hg, rfl⟩ := List.mem_map.mp (h.required_subset hkey)
  obtain ⟨f, hf, htakes⟩ := exists_mem_of_forall₂ h.takes hg
  rw [← htakes.key_eq]
  exact missing?_eq_none_iff.mp hmissing f hf (htakes.required_iff.mpr hkey)

/-- The members that a reader takes are those of the form. -/
lemma allowsMembers {ms : List (StringBody × Document)} {toks : List Text} {seen : List String}
    {v w : σ} {first : Bool} {t rest : Text} (ht : Spaced (memberTokens first ms ++ toks) t)
    (hrun : s.members seen v first t = .ok (w, rest)) :
    Form.AllowsMembers required fields seen ms ∧ Spaced toks rest := by
  -- Of the members that come first, only the keys of the known ones are left, in `seen`.
  induction ms generalizing seen v first t with
  | nil =>
    obtain ⟨t₁, hend, ht₁⟩ := nextKey_end first ht
    obtain ⟨hmissing, rfl⟩ := missing_of_members_ok hend hrun
    exact ⟨.nil (h.mem_seen_of_missing?_eq_none hmissing), ht₁⟩
  | cons m ms ih =>
    obtain ⟨b, d⟩ := m
    rw [memberTokens_cons_append] at ht
    obtain ⟨t₁, hnext, -⟩ := nextKey_quoted ht
    obtain ⟨key, t₂, t₃, hkey, hcolon, hrest⟩ := exists_of_members_ok hnext hrun
    obtain ⟨hb, t', hcolon', ht'⟩ := Reader.spells_of_member ht hnext hkey
    cases hcolon.symm.trans hcolon'
    have hends := endsValue_memberTokens ms toks
    rcases hrest with ⟨hfield, t₄, hskip, hrun⟩ | ⟨f, update, t₄, hfield, hseen, hread, hrun⟩
    · obtain ⟨t₅, hskip', ht₅⟩ := skipValue_document hends ht'
      cases hskip.symm.trans hskip'
      obtain ⟨hms, hspaced⟩ := ih ht₅ hrun
      exact ⟨hms.unknown hb (h.ne_of_field?_eq_none hfield), hspaced⟩
    · obtain ⟨g, hg, heq, htakes⟩ := h.exists_form_of_field?_eq_some hfield
      obtain ⟨hvalue, ht₄⟩ := htakes.read hends ht' hread
      obtain ⟨hms, hspaced⟩ := ih ht₄ hrun
      rw [htakes.key_eq] at hms hseen
      exact ⟨.known h.nodup hg hms (heq ▸ hb) hvalue hseen, hspaced⟩

end HasForm

lemma eq_false_of_firstRequired {i : Nat} {fs : List (Field σ)}
    (h : firstRequired i fs = none) : ∀ f ∈ fs, f.required = false := by
  induction fs generalizing i with
  | nil => exact List.forall_mem_nil _
  | cons f fs ih =>
    rw [firstRequired] at h
    split at h
    · cases h
    · next hf => exact List.forall_mem_cons.mpr ⟨eq_false_of_ne_true hf, ih h⟩

lemma skipSpace_of_endOfArray_ok {t rest : Text} (h : endOfArray t = .ok rest) :
    skipSpace t = ']' :: rest := by
  unfold endOfArray at h
  split at h
  · cases h
  · next hskip =>
    cases h
    exact hskip
  · split at h <;> cases h
  · cases h

lemma notMem_of_firstRequired {required : List String} {fs : List (Field σ)}
    {fields : List (String × Form)} {i : Nat} (h : List.Forall₂ (Field.Takes required) fs fields)
    (hnone : firstRequired i fs = none) : ∀ g ∈ fields, g.1 ∉ required := by
  intro g hg hrequired
  obtain ⟨f, hf, htakes⟩ := exists_mem_of_forall₂ h hg
  have hfalse := eq_false_of_firstRequired hnone f hf
  rw [htakes.required_iff.mpr hrequired] at hfalse
  cases hfalse

/-- Where the end of an array is read, no element is left. -/
lemma eq_nil_of_endOfArray_ok {first : Bool} {ds : List Document} {toks : List Text}
    {t rest : Text} (ht : Spaced (elementTokens first ds ++ toks) t)
    (hend : endOfArray t = .ok rest) : ds = [] ∧ Spaced toks rest := by
  cases ds with
  | nil =>
    obtain ⟨t', hend', ht'⟩ := endOfArray_of_spaced ht
    cases hend.symm.trans hend'
    exact ⟨rfl, ht'⟩
  | cons d ds =>
    rw [elementTokens_cons_append] at ht
    obtain ⟨t', hnext, -⟩ := nextElement_document ht
    simp only [nextElement, skipSpace_of_endOfArray_ok hend] at hnext
    cases hnext

/-- The elements that a reader takes are the fields of the form in order. -/
lemma allows_of_positions_ok {required : List String} {fs : List (Field σ)}
    {fields : List (String × Form)} (h : List.Forall₂ (Field.Takes required) fs fields)
    {ds : List Document} {toks : List Text} {i : Nat} {v w : σ} {t rest : Text}
    (ht : Spaced (elementTokens (i == 0) ds ++ toks) t)
    (hrun : s.positions i v t fs = .ok (w, rest)) :
    (∀ p ∈ fields.zip ds, (p.2 = .null → p.1.1 ∈ required) → p.1.2.Allows p.2) ∧
      ds.length ≤ fields.length ∧ (∀ g ∈ fields.drop ds.length, g.1 ∉ required) ∧
      Spaced toks rest := by
  induction h generalizing i v t ds with
  | nil =>
    simp only [positions] at hrun
    split at hrun
    · cases hrun
    · next hend =>
      cases hrun
      obtain ⟨rfl, ht'⟩ := eq_nil_of_endOfArray_ok ht hend
      exact ⟨List.forall_mem_nil _, Nat.le_refl _, List.forall_mem_nil _, ht'⟩
  | @cons f g fs fields hf hfs ih =>
    cases ds with
    | nil =>
      obtain ⟨t', hend, ht'⟩ := nextElement_end (i == 0) ht
      simp only [positions, hend] at hrun
      split at hrun
      · cases hrun
      · next hnone =>
        cases hrun
        refine ⟨?_, Nat.zero_le _, notMem_of_firstRequired (.cons hf hfs) hnone, ht'⟩
        rw [List.zip_nil_right]
        exact List.forall_mem_nil _
    | cons d ds =>
      rw [elementTokens_cons_append] at ht
      obtain ⟨t₁, hnext, ht₁⟩ := nextElement_document ht
      simp only [positions, hnext] at hrun
      split at hrun
      · cases hrun
      · next update t₂ hread =>
        obtain ⟨hvalue, ht₂⟩ := hf.read (endsValue_elementTokens ds toks) ht₁ hread
        have hi : (i + 1 == 0) = false := rfl
        obtain ⟨hvalues, hlength, hgiven, hspaced⟩ :=
          ih (i := i + 1) (by rw [hi]; exact ht₂) hrun
        refine ⟨List.forall_mem_cons.mpr ⟨hvalue, hvalues⟩, Nat.succ_le_succ hlength, hgiven,
          hspaced⟩

/-- A reader for records takes only documents of the form. -/
theorem HasForm.takes_reader {required : List String} {fields : List (String × Form)}
    (h : s.HasForm required fields) : s.reader.Takes (Form.record required fields).Allows := by
  intro d toks t a rest htoks ht hrun
  obtain ⟨c, body, hskip, -⟩ := d.exists_startsWith ht
  simp only [reader, startValue_of_skipSpace hskip] at hrun
  split at hrun
  · next hc =>
    subst hc
    obtain ⟨ms, rfl, hbody⟩ := Document.exists_object_of_skipSpace ht hskip
    obtain ⟨hms, hrest⟩ := h.allowsMembers hbody hrun
    have hgiven : ∀ key ∈ required, ∃ m ∈ ms, m.1.Spells key := fun key hkey =>
      (hms.given key hkey).resolve_left List.not_mem_nil
    exact ⟨.object hms.values hms.once hgiven, hrest⟩
  · split at hrun
    · next hc =>
      subst hc
      obtain ⟨ds, rfl, hbody⟩ := Document.exists_array_of_skipSpace ht hskip
      obtain ⟨hvalues, hlength, hgiven, hrest⟩ :=
        allows_of_positions_ok (i := 0) h.takes hbody hrun
      exact ⟨.array hvalues hlength hgiven, hrest⟩
    · cases hrun

end Schema

end AmbientDecls.Json
