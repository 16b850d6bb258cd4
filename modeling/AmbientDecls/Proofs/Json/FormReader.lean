import AmbientDecls.Proofs.Json.Form
import AmbientDecls.Proofs.Json.Record

/-!
# Readers and forms

What a reader takes is told by a form: if it reads a document without error, the document has the
form and is read as a whole (`Reader.Takes`). A reader for lists or tables takes what its items
allow.
-/

namespace AmbientDecls.Json

/-- What a document that starts with the character has to be. -/
def Document.StartsWith (d : Document) : Char → Prop
  | 'n' => d = .null
  | 't' => d = .bool true
  | 'f' => d = .bool false
  | '"' => ∃ b, d = .string b
  | '[' => ∃ ds, d = .array ds
  | '{' => ∃ ms, d = .object ms
  | _ => ∃ n, d = .number n

lemma Document.startsWith_number (n : Numeral) {c : Char} (hc : c = '-' ∨ c.isDigit = true) :
    (Document.number n).StartsWith c := by
  have hne : ∀ e : Char, e ≠ '-' → e.isDigit = false → c ≠ e := by
    rintro e hminus hdigit rfl
    rcases hc with hc | hc
    · exact hminus hc
    · exact Bool.false_ne_true (hdigit.symm.trans hc)
  unfold StartsWith
  split
  case h_7 => exact ⟨n, rfl⟩
  all_goals exact absurd rfl (hne _ (by decide) (by decide))

lemma Document.exists_startsWith {d : Document} {toks : List Text} {t : Text}
    (h : Spaced (d.tokens ++ toks) t) : ∃ c body, skipSpace t = c :: body ∧ d.StartsWith c := by
  cases d with
  | null =>
    obtain ⟨t', hskip, -⟩ := skipSpace_of_spaced h rfl
    exact ⟨_, _, hskip, rfl⟩
  | bool b =>
    cases b with
    | true =>
      obtain ⟨t', hskip, -⟩ := skipSpace_of_spaced h rfl
      exact ⟨_, _, hskip, rfl⟩
    | false =>
      obtain ⟨t', hskip, -⟩ := skipSpace_of_spaced h rfl
      exact ⟨_, _, hskip, rfl⟩
  | number n =>
    obtain ⟨c, body, htext, hc⟩ := n.exists_text_eq
    have hspace : isSpace c = false := by
      rcases hc with rfl | hc
      · rfl
      · exact not_space_of_startsValue (startsValue_of_isDigit hc)
    have htokens : (Document.number n).tokens = [c :: body] := by rw [tokens, htext]
    rw [htokens] at h
    obtain ⟨t', hskip, -⟩ := skipSpace_of_spaced h hspace
    exact ⟨c, _, hskip, startsWith_number n hc⟩
  | string b =>
    obtain ⟨t', hskip, -⟩ := skipSpace_of_spaced h rfl
    exact ⟨_, _, hskip, b, rfl⟩
  | array ds =>
    obtain ⟨t', hskip, -⟩ := skipSpace_of_spaced h rfl
    exact ⟨_, _, hskip, ds, rfl⟩
  | object ms =>
    obtain ⟨t', hskip, -⟩ := skipSpace_of_spaced h rfl
    exact ⟨_, _, hskip, ms, rfl⟩

namespace Document

variable {d : Document} {toks : List Text} {t body : Text}

lemma exists_string_of_skipSpace (h : Spaced (d.tokens ++ toks) t)
    (hskip : skipSpace t = '"' :: body) :
    ∃ b rest, d = .string b ∧ body = b.text ++ '"' :: rest ∧ Spaced toks rest := by
  obtain ⟨c, body', hskip', hstart⟩ := exists_startsWith h
  obtain ⟨rfl, -⟩ := List.cons.inj (hskip.symm.trans hskip')
  obtain ⟨b, rfl⟩ := hstart
  obtain ⟨rest, hskip', hrest⟩ := skipSpace_of_spaced h rfl
  obtain ⟨-, rfl⟩ := List.cons.inj (hskip.symm.trans hskip')
  exact ⟨b, rest, rfl, List.append_assoc .., hrest⟩

lemma exists_array_of_skipSpace (h : Spaced (d.tokens ++ toks) t)
    (hskip : skipSpace t = '[' :: body) :
    ∃ ds, d = .array ds ∧ Spaced (elementTokens true ds ++ toks) body := by
  obtain ⟨c, body', hskip', hstart⟩ := exists_startsWith h
  obtain ⟨rfl, -⟩ := List.cons.inj (hskip.symm.trans hskip')
  obtain ⟨ds, rfl⟩ := hstart
  obtain ⟨rest, hskip', hrest⟩ := skipSpace_of_spaced h rfl
  obtain ⟨-, rfl⟩ := List.cons.inj (hskip.symm.trans hskip')
  exact ⟨ds, rfl, hrest⟩

lemma exists_object_of_skipSpace (h : Spaced (d.tokens ++ toks) t)
    (hskip : skipSpace t = '{' :: body) :
    ∃ ms, d = .object ms ∧ Spaced (memberTokens true ms ++ toks) body := by
  obtain ⟨c, body', hskip', hstart⟩ := exists_startsWith h
  obtain ⟨rfl, -⟩ := List.cons.inj (hskip.symm.trans hskip')
  obtain ⟨ms, rfl⟩ := hstart
  obtain ⟨rest, hskip', hrest⟩ := skipSpace_of_spaced h rfl
  obtain ⟨-, rfl⟩ := List.cons.inj (hskip.symm.trans hskip')
  exact ⟨ms, rfl, hrest⟩

end Document

/-! ### Readers -/

/-- The reader takes only documents of a kind, and takes each of them as a whole. -/
def Reader.Takes {α : Type} (r : Reader α) (P : Document → Prop) : Prop :=
  ∀ ⦃d : Document⦄ ⦃toks : List Text⦄ ⦃t : Text⦄ ⦃a : α⦄ ⦃rest : Text⦄, EndsValue toks →
    Spaced (d.tokens ++ toks) t → r.run t = .ok (a, rest) → P d ∧ Spaced toks rest

namespace Reader.Takes

variable {α β : Type} {P Q : Document → Prop} {r : Reader α}

lemma imp (h : r.Takes P) (hPQ : ∀ d, P d → Q d) : r.Takes Q := by
  intro d toks t a rest htoks ht hrun
  obtain ⟨hP, hrest⟩ := h htoks ht hrun
  exact ⟨hPQ d hP, hrest⟩

lemma map (h : r.Takes P) (f : α → β) : (r.map f).Takes P := by
  intro d toks t a rest htoks ht hrun
  simp only [Reader.map] at hrun
  split at hrun
  · cases hrun
  · next hr =>
    cases hrun
    exact h htoks ht hr

lemma nullable (h : r.Takes P) (default : α) :
    (nullable default r).Takes fun d => d = .null ∨ P d := by
  intro d toks t a rest htoks ht hrun
  by_cases hd : d = .null
  · subst hd
    obtain ⟨t', hnull, ht'⟩ := reads_nullable_null default r ht
    cases hrun.symm.trans hnull
    exact ⟨.inl rfl, ht'⟩
  · obtain ⟨c, body, hskip, -, hnull, -⟩ := d.exists_skipSpace_eq ht
    simp only [Reader.nullable, hskip] at hrun
    split at hrun
    · next heq => exact absurd (hnull (List.cons.inj heq).1) hd
    · obtain ⟨hP, hrest⟩ := h htoks ht hrun
      exact ⟨.inr hP, hrest⟩

lemma string : Reader.string.Takes Form.text.Allows := by
  intro d toks t a rest htoks ht hrun
  obtain ⟨c, body, hskip, -⟩ := d.exists_startsWith ht
  simp only [Reader.string, startValue_of_skipSpace hskip] at hrun
  split at hrun
  · next hc =>
    subst hc
    obtain ⟨b, t', rfl, rfl, ht'⟩ := Document.exists_string_of_skipSpace ht hskip
    split at hrun
    · cases hrun
    · next hbody =>
      obtain ⟨s, -, -, hrest⟩ := spells_of_stringBody b.isStringBody hbody
      cases hrun
      exact ⟨.text b, hrest ▸ ht'⟩
  · cases hrun

lemma bool : Reader.bool.Takes Form.flag.Allows := by
  intro d toks t a rest htoks ht hrun
  have hflag : ∃ b, d = .bool b := by
    obtain ⟨c, body, hskip, hstart⟩ := d.exists_startsWith ht
    simp only [Reader.bool, startValue_of_skipSpace hskip] at hrun
    split at hrun
    · next hc => exact ⟨true, (hc ▸ hstart : d.StartsWith 't')⟩
    · split at hrun
      · next hc => exact ⟨false, (hc ▸ hstart : d.StartsWith 'f')⟩
      · cases hrun
  obtain ⟨b, rfl⟩ := hflag
  obtain ⟨t', hbool, ht'⟩ := reads_bool b ht
  cases hrun.symm.trans hbool
  exact ⟨.flag _, ht'⟩

end Reader.Takes

namespace Reader

variable {α : Type} {item : Reader α} {P : Document → Prop}

lemma exists_of_elements_ok {seen xs : List α} {first : Bool} {t t₁ rest : Text}
    (hnext : nextElement first t = .ok (true, t₁))
    (h : elements item seen first t = .ok (xs, rest)) :
    ∃ a t₂, item.run t₁ = .ok (a, t₂) ∧ elements item (a :: seen) false t₂ = .ok (xs, rest) := by
  rw [elements] at h
  split at h
  · cases h
  · next he => cases hnext.symm.trans he
  · next he =>
    cases hnext.symm.trans he
    split at h
    · cases h
    · next a t₂ hitem => exact ⟨a, t₂, hitem, h⟩

lemma Takes.elements (hitem : item.Takes P) {ds : List Document} {toks : List Text}
    {seen xs : List α} {first : Bool} {t rest : Text}
    (ht : Spaced (elementTokens first ds ++ toks) t)
    (h : elements item seen first t = .ok (xs, rest)) : (∀ d ∈ ds, P d) ∧ Spaced toks rest := by
  induction ds generalizing seen first t with
  | nil =>
    obtain ⟨t', hend, ht'⟩ := nextElement_end first ht
    cases h.symm.trans (elements_end hend)
    exact ⟨List.forall_mem_nil _, ht'⟩
  | cons d ds ih =>
    rw [elementTokens_cons_append] at ht
    obtain ⟨t₁, hnext, ht₁⟩ := nextElement_document ht
    obtain ⟨a, t₂, hrun, h⟩ := exists_of_elements_ok hnext h
    obtain ⟨hd, ht₂⟩ := hitem (endsValue_elementTokens ds toks) ht₁ hrun
    obtain ⟨hds, hrest⟩ := ih ht₂ h
    exact ⟨List.forall_mem_cons.mpr ⟨hd, hds⟩, hrest⟩

lemma Takes.list {form : Form} (hitem : item.Takes form.Allows) :
    (list item).Takes (Form.list form).Allows := by
  intro d toks t xs rest htoks ht hrun
  obtain ⟨c, body, hskip, -⟩ := d.exists_startsWith ht
  simp only [Reader.list, startValue_of_skipSpace hskip] at hrun
  split at hrun
  · next hc =>
    subst hc
    obtain ⟨ds, rfl, hbody⟩ := Document.exists_array_of_skipSpace ht hskip
    obtain ⟨hds, hrest⟩ := hitem.elements hbody hrun
    exact ⟨.list hds, hrest⟩
  · cases hrun

/-- The key of a member and the colon behind it are taken as they are written. -/
lemma spells_of_member {b : StringBody} {toks : List Text} {t t₁ : Text} {first : Bool}
    (ht : Spaced (separator first ++ (b.quoted :: [':'] :: toks)) t)
    (hnext : nextKey first t = .ok (true, t₁)) {key t₂ : Text}
    (hkey : stringBody [] t₁ = .ok (key, t₂)) :
    b.Spells (String.ofList key) ∧ ∃ t₃, colon t₂ = .ok t₃ ∧ Spaced toks t₃ := by
  obtain ⟨t', hnext', ht'⟩ := nextKey_quoted ht
  cases hnext.symm.trans hnext'
  obtain ⟨s, hs, rfl, rfl⟩ := spells_of_stringBody b.isStringBody hkey
  refine ⟨?_, colon_of_spaced ht'⟩
  rw [StringBody.Spells, String.toList_ofList]
  exact hs

lemma exists_of_entries_ok {seen entries : Table α} {first : Bool} {t t₁ rest : Text}
    (hnext : nextKey first t = .ok (true, t₁))
    (h : Reader.entries item seen first t = .ok (entries, rest)) :
    ∃ key t₂ t₃ a t₄, stringBody [] t₁ = .ok (key, t₂) ∧ colon t₂ = .ok t₃ ∧
      item.run t₃ = .ok (a, t₄) ∧
      Reader.entries item (seen.insert (String.ofList key) a) false t₄ = .ok (entries, rest) := by
  rw [Reader.entries] at h
  split at h
  · cases h
  · next he => cases hnext.symm.trans he
  · next he =>
    cases hnext.symm.trans he
    split at h
    · cases h
    · next key t₂ hkey =>
      split at h
      · cases h
      · next t₃ hcolon =>
        split at h
        · cases h
        · next a t₄ hitem => exact ⟨key, t₂, t₃, a, t₄, hkey, hcolon, hitem, h⟩

lemma Takes.entries (hitem : item.Takes P) {ms : List (StringBody × Document)} {toks : List Text}
    {seen entries : Table α} {first : Bool} {t rest : Text}
    (ht : Spaced (memberTokens first ms ++ toks) t)
    (h : Reader.entries item seen first t = .ok (entries, rest)) :
    (∀ m ∈ ms, P m.2) ∧ Spaced toks rest := by
  induction ms generalizing seen first t with
  | nil =>
    obtain ⟨t', hend, ht'⟩ := nextKey_end first ht
    cases h.symm.trans (entries_end hend)
    exact ⟨List.forall_mem_nil _, ht'⟩
  | cons m ms ih =>
    obtain ⟨b, d⟩ := m
    rw [memberTokens_cons_append] at ht
    obtain ⟨t₁, hnext, -⟩ := nextKey_quoted ht
    obtain ⟨key, t₂, t₃, a, t₄, hkey, hcolon, hrun, h⟩ := exists_of_entries_ok hnext h
    obtain ⟨-, t', hcolon', ht'⟩ := spells_of_member ht hnext hkey
    cases hcolon.symm.trans hcolon'
    obtain ⟨hd, ht₄⟩ := hitem (endsValue_memberTokens ms toks) ht' hrun
    obtain ⟨hms, hrest⟩ := ih ht₄ h
    exact ⟨List.forall_mem_cons.mpr ⟨hd, hms⟩, hrest⟩

lemma Takes.table {form : Form} (hitem : item.Takes form.Allows) :
    (table item).Takes (Form.table form).Allows := by
  intro d toks t table rest htoks ht hrun
  obtain ⟨c, body, hskip, -⟩ := d.exists_startsWith ht
  simp only [Reader.table, startValue_of_skipSpace hskip] at hrun
  split at hrun
  · next hc =>
    subst hc
    obtain ⟨ms, rfl, hbody⟩ := Document.exists_object_of_skipSpace ht hskip
    obtain ⟨hms, hrest⟩ := hitem.entries hbody hrun
    exact ⟨.table hms, hrest⟩
  · cases hrun

end Reader

end AmbientDecls.Json
