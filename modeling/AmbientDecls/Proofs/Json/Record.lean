import AmbientDecls.Json.Record
import AmbientDecls.Proofs.Json.Skip
import AmbientDecls.Proofs.Json.Value
import Mathlib.Data.List.Pairwise
import Mathlib.Data.List.Perm.Basic
import Mathlib.Data.List.ReduceOption

/-!
# The written forms of records

A record has many documents. As an object it has its fields in any order, among members under
other keys; as an array it has them in order and may end early. A field whose value is the default
one is written as that value, as `null`, or not at all. Every document of a record is read as the
record (`Schema.ReadsFields.reads`): what the fields make of a record does not depend on their
order, since the updates of different fields commute.
-/

namespace AmbientDecls.Json

/-- A field of a record, with the documents of the value that the record has in it. -/
structure WrittenField where
  key : String
  /-- The value is the default one, which `null` stands for and which may be left out. -/
  isDefault : Prop
  IsValue : Document → Prop

/-- The document stands for the value of the field. -/
def WrittenField.Writes (f : WrittenField) (d : Document) : Prop :=
  f.IsValue d ∨ f.isDefault ∧ d = .null

/-- The members have the fields in order. Only fields with their default values are left out. -/
inductive Given : List WrittenField → List (StringBody × Document) → Prop
  | nil : Given [] []
  | give {f : WrittenField} {fs : List WrittenField} {b : StringBody} {d : Document}
      {ms : List (StringBody × Document)} (hb : b.Spells f.key) (hd : f.Writes d)
      (h : Given fs ms) : Given (f :: fs) ((b, d) :: ms)
  | leave {f : WrittenField} {fs : List WrittenField} {ms : List (StringBody × Document)}
      (hf : f.isDefault) (h : Given fs ms) : Given (f :: fs) ms

/-- The elements are the fields in order. Only fields with their default values are left out at the
end. -/
inductive Listed : List WrittenField → List Document → Prop
  | nil {fs : List WrittenField} (hfs : ∀ f ∈ fs, f.isDefault) : Listed fs []
  | cons {f : WrittenField} {fs : List WrittenField} {d : Document} {ds : List Document}
      (hd : f.Writes d) (h : Listed fs ds) : Listed (f :: fs) (d :: ds)

/-- The key of the member spells a text that is none of the fields' keys. A key that spells none is
refused (`members_unspelled`). -/
def IsUnknown (fs : List WrittenField) (m : StringBody × Document) : Prop :=
  ∃ key, m.1.Spells key ∧ ∀ f ∈ fs, f.key ≠ key

/-- The document is a way to write a record with these fields. -/
inductive WritesRecord (fs : List WrittenField) : Document → Prop
  | object {ms given unknown : List (StringBody × Document)} (hgiven : Given fs given)
      (hunknown : ∀ m ∈ unknown, IsUnknown fs m) (hms : ms.Perm (given ++ unknown)) :
      WritesRecord fs (.object ms)
  | array {ds : List Document} (hds : Listed fs ds) : WritesRecord fs (.array ds)

/-! ### Reading the fields -/

/-- A field that a schema reads as a written field has it: whatever document stands for the value,
it is read as the same update of a record. -/
structure ReadField {σ : Type} (s : Schema σ) where
  field : Field σ
  written : WrittenField
  update : σ → σ
  key_eq : field.key = written.key
  reads : ∀ d, written.Writes d → field.read.Reads d update
  update_empty : written.isDefault → update s.empty = s.empty
  not_default : field.required = true → ¬written.isDefault

section Members

variable {σ : Type} {s : Schema σ} {seen : List String} {v : σ} {first : Bool} {key : Text}
  {t t₁ t₂ t₃ rest : Text}

lemma members_end (h : nextKey first t = .ok (false, rest)) (hmissing : s.missing? seen = none) :
    s.members seen v first t = .ok (v, rest) := by
  rw [Schema.members]
  split
  · next he => cases h.symm.trans he
  · next he =>
    cases h.symm.trans he
    rw [hmissing]
  · next he => cases h.symm.trans he

lemma members_unknown (h : nextKey first t = .ok (true, t₁))
    (hkey : stringBody [] t₁ = .ok (key, t₂)) (hfield : s.field? (String.ofList key) = none)
    (hcolon : colon t₂ = .ok t₃) (hskip : skipValue t₃ = .ok rest) :
    s.members seen v first t = s.members seen v false rest := by
  rw [Schema.members]
  split
  · next he => cases h.symm.trans he
  · next he => cases h.symm.trans he
  · next he =>
    cases h.symm.trans he
    split
    · next hk => cases hkey.symm.trans hk
    · next hk =>
      cases hkey.symm.trans hk
      rw [hfield]
      simp only
      split
      · next hc => cases hcolon.symm.trans hc
      · next hc =>
        cases hcolon.symm.trans hc
        split
        · next hs => cases hskip.symm.trans hs
        · next hs =>
          cases hskip.symm.trans hs
          rfl

lemma members_known {f : Field σ} {update : σ → σ} (h : nextKey first t = .ok (true, t₁))
    (hkey : stringBody [] t₁ = .ok (key, t₂)) (hfield : s.field? (String.ofList key) = some f)
    (hseen : f.key ∉ seen) (hcolon : colon t₂ = .ok t₃)
    (hread : f.read.run t₃ = .ok (update, rest)) :
    s.members seen v first t = s.members (f.key :: seen) (update v) false rest := by
  rw [Schema.members]
  split
  · next he => cases h.symm.trans he
  · next he => cases h.symm.trans he
  · next he =>
    cases h.symm.trans he
    split
    · next hk => cases hkey.symm.trans hk
    · next hk =>
      cases hkey.symm.trans hk
      rw [hfield]
      simp only
      rw [if_neg (by simpa using hseen)]
      split
      · next hc => cases hcolon.symm.trans hc
      · next hc =>
        cases hcolon.symm.trans hc
        split
        · next hs => cases hread.symm.trans hs
        · next hs =>
          cases hread.symm.trans hs
          rfl

/-- A key that spells no text is refused, although it is none of the fields'. -/
lemma members_unspelled {b : StringBody} (hb : ∀ key, ¬b.Spells key)
    (h : nextKey first t = .ok (true, b.text ++ '"' :: rest)) :
    ∃ fault, s.members seen v first t = .error fault := by
  cases hkey : stringBody [] (b.text ++ '"' :: rest) with
  | error fault =>
    refine ⟨fault, ?_⟩
    rw [Schema.members]
    split
    · next he => cases h.symm.trans he
    · next he => cases h.symm.trans he
    · next he =>
      cases h.symm.trans he
      split
      · next hk =>
        cases hkey.symm.trans hk
        rfl
      · next hk => cases hkey.symm.trans hk
  | ok key =>
    obtain ⟨s', hs', -, -⟩ := spells_of_stringBody b.isStringBody hkey
    have hspells : b.Spells (String.ofList s') := by
      rw [StringBody.Spells, String.toList_ofList]
      exact hs'
    exact absurd hspells (hb _)

/-- So is one with half of a surrogate pair. -/
lemma members_half {a b c d : Char} {n : Nat} {body : Text} (hn : hexQuad a b c d = some n)
    (hhalf : isLowSurrogate n = true ∨ isHighSurrogate n = true ∧ body.head? ≠ some '\\')
    (hbody : IsStringBody body)
    (h : nextKey first t =
      .ok (true, '\\' :: 'u' :: a :: b :: c :: d :: (body ++ '"' :: rest))) :
    ∃ fault, s.members seen v first t = .error fault :=
  members_unspelled (b := ⟨_, .unit hn hbody⟩) (fun key => not_spells_half hn hhalf key.toList) h

end Members

/-- The two fields may be set in any order. -/
def ReadField.Commute {σ : Type} {s : Schema σ} (q r : ReadField s) : Prop :=
  ∀ x, q.update (r.update x) = r.update (q.update x)

instance {σ : Type} {s : Schema σ} : Std.Symm (@ReadField.Commute σ s) :=
  ⟨fun _ _ h x => (h x).symm⟩

lemma find?_of_nodup_map {α : Type} (key : α → String) {l : List α} (hl : (l.map key).Nodup) {a : α}
    (ha : a ∈ l) : (l.find? fun b => key b == key a) = some a := by
  induction l with
  | nil => cases ha
  | cons b l ih =>
    rw [List.map_cons, List.nodup_cons] at hl
    rcases List.mem_cons.mp ha with rfl | ha
    · simp
    · have hne : key b ≠ key a := fun heq => hl.1 (heq ▸ List.mem_map_of_mem ha)
      rw [List.find?_cons_of_neg (by simpa using hne)]
      exact ih hl.2 ha

/-- The fields that members give, and those that they leave out. -/
lemma Given.exists_readFields {σ : Type} {s : Schema σ} {rs : List (ReadField s)}
    {ms : List (StringBody × Document)} (h : Given (rs.map (·.written)) ms) :
    ∃ given left, rs.Perm (left ++ given) ∧ (∀ r ∈ left, r.written.isDefault) ∧
      List.Forall₂ (fun m r => m.1.Spells r.written.key ∧ r.written.Writes m.2) ms given := by
  generalize hfs : rs.map (·.written) = fs at h
  induction h generalizing rs with
  | nil =>
    rw [List.map_eq_nil_iff.mp hfs]
    exact ⟨[], [], .nil, fun _ hr => (nomatch hr), .nil⟩
  | give hb hd _ ih =>
    obtain ⟨r, rs, rfl, rfl, htail⟩ := List.map_eq_cons_iff.mp hfs
    obtain ⟨given, left, hperm, hleft, hgiven⟩ := ih htail
    exact ⟨r :: given, left, (hperm.cons r).trans List.perm_middle.symm, hleft,
      .cons ⟨hb, hd⟩ hgiven⟩
  | leave hf _ ih =>
    obtain ⟨r, rs, rfl, rfl, htail⟩ := List.map_eq_cons_iff.mp hfs
    obtain ⟨given, left, hperm, hleft, hgiven⟩ := ih htail
    exact ⟨given, r :: left, hperm.cons r, List.forall_mem_cons.mpr ⟨hf, hleft⟩, hgiven⟩

namespace Schema

variable {σ : Type} {s : Schema σ}

/-- What the values of the fields make of a record, one after another. -/
def updateAll (rs : List (ReadField s)) (x : σ) : σ := rs.foldl (fun x r => r.update x) x

/-- The fields of the schema are read with the values that `v` has in them. -/
structure ReadsFields (s : Schema σ) (rs : List (ReadField s)) (v : σ) : Prop where
  fields : s.fields = rs.map (·.field)
  nodup : (s.fields.map (·.key)).Nodup
  commute : rs.Pairwise ReadField.Commute
  updateAll_eq : updateAll rs s.empty = v

lemma updateAll_of_default {rs : List (ReadField s)} (h : ∀ r ∈ rs, r.written.isDefault) :
    updateAll rs s.empty = s.empty := by
  induction rs with
  | nil => rfl
  | cons r rs ih =>
    rw [List.forall_mem_cons] at h
    rw [updateAll, List.foldl_cons, r.update_empty h.1]
    exact ih h.2

/-- The member gives the field, or it gives none of them. -/
def Plays (rs : List (ReadField s)) (m : StringBody × Document) : Option (ReadField s) → Prop
  | some r => m.1.Spells r.written.key ∧ r.written.Writes m.2
  | none => IsUnknown (rs.map (·.written)) m

namespace ReadsFields

variable {rs : List (ReadField s)} {v : σ} (h : s.ReadsFields rs v)

include h

lemma nodup_keys : (rs.map (·.field.key)).Nodup := by
  have hnodup := h.nodup
  rwa [h.fields, List.map_map] at hnodup

/-- The fields that are given make the whole record, in any order. -/
lemma updateAll_given {left given given' : List (ReadField s)} (hrs : rs.Perm (left ++ given))
    (hleft : ∀ r ∈ left, r.written.isDefault) (hgiven : given'.Perm given) :
    updateAll given' s.empty = v := by
  have hperm : rs.Perm (left ++ given') := hrs.trans (hgiven.symm.append_left left)
  have hcommute : ∀ q ∈ rs, ∀ r ∈ rs, ReadField.Commute q r :=
    fun q hq r hr => h.commute.forall_of_forall (fun _ _ _ => rfl) hq hr
  -- Fields that are left out have their defaults, so to set them first changes nothing.
  calc updateAll given' s.empty
      = updateAll given' (updateAll left s.empty) := by rw [updateAll_of_default hleft]
    _ = updateAll (left ++ given') s.empty := by
        rw [updateAll, updateAll, updateAll, List.foldl_append]
    _ = updateAll rs s.empty :=
        (hperm.foldl_eq' (fun q hq r hr x => hcommute r hr q hq x) s.empty).symm
    _ = v := h.updateAll_eq

lemma field?_eq_some {r : ReadField s} (hr : r ∈ rs) : s.field? r.field.key = some r.field := by
  rw [field?, h.fields, List.find?_map]
  exact congrArg _ (find?_of_nodup_map (·.field.key) h.nodup_keys hr)

lemma field?_eq_none {key : String} (hkey : ∀ f ∈ rs.map (·.written), f.key ≠ key) :
    s.field? key = none := by
  rw [field?, h.fields, List.find?_eq_none]
  intro f hf
  obtain ⟨r, hr, rfl⟩ := List.mem_map.mp hf
  have hne := hkey r.written (List.mem_map_of_mem hr)
  rw [← r.key_eq] at hne
  simpa using hne

/-- The members of an object are read one after another. A field that a member gives was not given
before and is not given again, and in the end every required field is given. -/
lemma members_of_spaced {ms : List (StringBody × Document)} {roles : List (Option (ReadField s))}
    (hroles : List.Forall₂ (Plays rs) ms roles) {toks : List Text} {t : Text} {first : Bool}
    (ht : Spaced (memberTokens first ms ++ toks) t) {seen : List String}
    (hmem : ∀ r ∈ roles.reduceOption, r ∈ rs)
    (hnodup : (roles.reduceOption.map (·.field.key)).Nodup)
    (hseen : ∀ r ∈ roles.reduceOption, r.field.key ∉ seen)
    (hrequired : ∀ r ∈ rs, r.field.required = true →
      r.field.key ∈ seen ∨ r ∈ roles.reduceOption) (x : σ) :
    ∃ t', s.members seen x first t = .ok (updateAll roles.reduceOption x, t') ∧ Spaced toks t' := by
  induction hroles generalizing first t seen x with
  | nil =>
    obtain ⟨t', hend, ht'⟩ := nextKey_end first ht
    have hmissing : s.missing? seen = none := by
      rw [missing?, h.fields, List.find?_eq_none]
      intro f hf
      obtain ⟨r, hr, rfl⟩ := List.mem_map.mp hf
      have hreq := hrequired r hr
      simp_all
    exact ⟨t', members_end hend hmissing, ht'⟩
  | @cons m role ms roles hrole _ ih =>
    obtain ⟨b, d⟩ := m
    rw [memberTokens_cons_append] at ht
    cases role with
    | none =>
      obtain ⟨key, hb, hunknown⟩ := hrole
      obtain ⟨t₁, t₂, t₃, hnext, hkey, hcolon, ht₃⟩ := exists_key_of_spaced hb ht
      obtain ⟨t₄, hskip, ht₄⟩ := skipValue_document (endsValue_memberTokens ms toks) ht₃
      rw [List.reduceOption_cons_of_none] at hmem hnodup hseen hrequired ⊢
      have hfield : s.field? (String.ofList key.toList) = none := by
        rw [String.ofList_toList]
        exact h.field?_eq_none hunknown
      obtain ⟨t', hrest, ht'⟩ := ih ht₄ hmem hnodup hseen hrequired x
      exact ⟨t', (members_unknown hnext hkey hfield hcolon hskip).trans hrest, ht'⟩
    | some r =>
      obtain ⟨hb, hd⟩ := hrole
      obtain ⟨t₁, t₂, t₃, hnext, hkey, hcolon, ht₃⟩ := exists_key_of_spaced hb ht
      obtain ⟨t₄, hread, ht₄⟩ := r.reads d hd ht₃
      rw [List.reduceOption_cons_of_some] at hmem hnodup hseen hrequired ⊢
      rw [List.map_cons, List.nodup_cons] at hnodup
      rw [List.forall_mem_cons] at hmem hseen
      have hfield : s.field? (String.ofList r.written.key.toList) = some r.field := by
        rw [String.ofList_toList, ← r.key_eq]
        exact h.field?_eq_some hmem.1
      have hseen' : ∀ q ∈ roles.reduceOption, q.field.key ∉ r.field.key :: seen := by
        intro q hq hmem
        rcases List.mem_cons.mp hmem with heq | hmem
        · exact hnodup.1 (heq ▸ List.mem_map_of_mem hq)
        · exact hseen.2 q hq hmem
      have hrequired' : ∀ q ∈ rs, q.field.required = true →
          q.field.key ∈ r.field.key :: seen ∨ q ∈ roles.reduceOption := by
        intro q hq hreq
        rcases hrequired q hq hreq with hmem | hmem
        · exact .inl (List.mem_cons_of_mem _ hmem)
        · rcases List.mem_cons.mp hmem with rfl | hmem
          · exact .inl List.mem_cons_self
          · exact .inr hmem
      obtain ⟨t', hrest, ht'⟩ := ih ht₄ hmem.2 hnodup.2 hseen' hrequired' (r.update x)
      exact ⟨t', (members_known hnext hkey hfield hseen.1 hcolon hread).trans hrest, ht'⟩

/-- An object that gives the fields in some order, among members under other keys. -/
lemma members_of_perm {ms given unknown : List (StringBody × Document)}
    (hgiven : Given (rs.map (·.written)) given)
    (hunknown : ∀ m ∈ unknown, IsUnknown (rs.map (·.written)) m) (hms : ms.Perm (given ++ unknown))
    {toks : List Text} {t : Text} (ht : Spaced (memberTokens true ms ++ toks) t) :
    ∃ t', s.members [] s.empty true t = .ok (v, t') ∧ Spaced toks t' := by
  obtain ⟨qs, left, hrs, hleft, hqs⟩ := hgiven.exists_readFields
  have hroles : List.Forall₂ (Plays rs) (given ++ unknown)
      (qs.map some ++ unknown.map fun _ => none) :=
    List.rel_append (List.forall₂_map_right_iff.mpr hqs)
      (List.forall₂_map_right_iff.mpr (List.forall₂_same.mpr hunknown))
  -- The members play the same roles wherever they stand.
  obtain ⟨roles, hplays, hperm⟩ := List.perm_comp_forall₂ hms hroles
  have hreduce : roles.reduceOption.Perm qs := by
    have hfilter := hperm.filterMap id
    simpa [List.reduceOption] using hfilter
  have hmem : ∀ r ∈ roles.reduceOption, r ∈ rs := fun r hr =>
    hrs.mem_iff.mpr (List.mem_append_right left (hreduce.mem_iff.mp hr))
  have hkeys : (roles.reduceOption.map (·.field.key)).Nodup := by
    have hall := (hrs.map (·.field.key)).nodup_iff.mp h.nodup_keys
    rw [List.map_append] at hall
    exact (hreduce.map _).nodup_iff.mpr (List.nodup_append.mp hall).2.1
  have hrequired : ∀ r ∈ rs, r.field.required = true →
      r.field.key ∈ [] ∨ r ∈ roles.reduceOption := by
    intro r hr hreq
    rcases List.mem_append.mp (hrs.mem_iff.mp hr) with hmem | hmem
    · exact absurd (hleft r hmem) (r.not_default hreq)
    · exact .inr (hreduce.mem_iff.mpr hmem)
  obtain ⟨t', hmembers, ht'⟩ :=
    h.members_of_spaced hplays ht hmem hkeys (fun _ _ => List.not_mem_nil) hrequired s.empty
  exact ⟨t', by rw [hmembers, h.updateAll_given hrs hleft hreduce], ht'⟩

end ReadsFields

lemma endOfArray_of_spaced {toks : List Text} {t : Text} (h : Spaced ([']'] :: toks) t) :
    ∃ t', endOfArray t = .ok t' ∧ Spaced toks t' := by
  obtain ⟨t', hskip, ht'⟩ := skipSpace_of_spaced h rfl
  exact ⟨t', by simp [endOfArray, hskip], ht'⟩

lemma firstRequired_eq_none {fs : List (Field σ)} (h : ∀ f ∈ fs, f.required = false) (index : Nat) :
    firstRequired index fs = none := by
  induction fs generalizing index with
  | nil => rfl
  | cons f fs ih =>
    rw [List.forall_mem_cons] at h
    rw [firstRequired, h.1]
    exact ih h.2 (index + 1)

/-- The elements of an array are read as the fields in order. -/
lemma positions_of_listed {rs : List (ReadField s)} {ds : List Document}
    (hds : Listed (rs.map (·.written)) ds) {toks : List Text} {t : Text} {i : Nat}
    (ht : Spaced (elementTokens (i == 0) ds ++ toks) t) (x : σ) :
    ∃ given left t', rs = given ++ left ∧ (∀ r ∈ left, r.written.isDefault) ∧
      s.positions i x t (rs.map (·.field)) = .ok (updateAll given x, t') ∧ Spaced toks t' := by
  generalize hfs : rs.map (·.written) = fs at hds
  induction hds generalizing rs t i x with
  | nil hdefault =>
    subst hfs
    have hleft : ∀ r ∈ rs, r.written.isDefault := fun r hr =>
      hdefault r.written (List.mem_map_of_mem hr)
    cases rs with
    | nil =>
      obtain ⟨t', hend, ht'⟩ := endOfArray_of_spaced ht
      exact ⟨[], [], t', rfl, hleft, by simp only [List.map_nil, positions, hend]; rfl, ht'⟩
    | cons r rs =>
      obtain ⟨t', hend, ht'⟩ := nextElement_end (i == 0) ht
      have hrequired : ∀ f ∈ (r :: rs).map (·.field), f.required = false := by
        intro f hf
        obtain ⟨q, hq, rfl⟩ := List.mem_map.mp hf
        exact eq_false_of_ne_true fun hreq => q.not_default hreq (hleft q hq)
      have hnone := firstRequired_eq_none hrequired i
      rw [List.map_cons] at hnone
      refine ⟨[], r :: rs, t', rfl, hleft, ?_, ht'⟩
      simp only [List.map_cons, positions, hend, hnone]
      rfl
  | cons hd _ ih =>
    obtain ⟨r, rs, rfl, rfl, htail⟩ := List.map_eq_cons_iff.mp hfs
    rw [elementTokens_cons_append] at ht
    obtain ⟨t₁, hnext, ht₁⟩ := nextElement_document ht
    obtain ⟨t₂, hread, ht₂⟩ := r.reads _ hd ht₁
    have hindex : (i + 1 == 0) = false := rfl
    obtain ⟨given, left, t', rfl, hleft, hrest, ht'⟩ :=
      ih (i := i + 1) (by rw [hindex]; exact ht₂) (r.update x) htail
    refine ⟨r :: given, left, t', rfl, hleft, ?_, ht'⟩
    simp only [List.map_cons, positions, hnext, hread, hrest]
    rfl

/-- Every document of a record is read as the record. -/
theorem ReadsFields.reads {rs : List (ReadField s)} {v : σ} (h : s.ReadsFields rs v) {d : Document}
    (hd : WritesRecord (rs.map (·.written)) d) : s.reader.Reads d v := by
  intro toks t ht
  cases hd with
  | object hgiven hunknown hms =>
    obtain ⟨t₁, hskip, ht₁⟩ := skipSpace_of_spaced ht rfl
    obtain ⟨t', hmembers, ht'⟩ := h.members_of_perm hgiven hunknown hms ht₁
    refine ⟨t', ?_, ht'⟩
    simp only [reader, startValue_of_skipSpace hskip, if_true]
    exact hmembers
  | array hds =>
    obtain ⟨t₁, hskip, ht₁⟩ := skipSpace_of_spaced ht rfl
    obtain ⟨given, left, t', hrs, hleft, hpositions, ht'⟩ :=
      positions_of_listed hds (i := 0) ht₁ s.empty
    have hperm : rs.Perm (left ++ given) := hrs ▸ List.perm_append_comm
    rw [h.updateAll_given hperm hleft (.refl given), ← h.fields] at hpositions
    have hne : '[' ≠ '{' := by decide
    refine ⟨t', ?_, ht'⟩
    simp only [reader, startValue_of_skipSpace hskip, hne, if_false, if_true]
    exact hpositions

end Schema

end AmbientDecls.Json
