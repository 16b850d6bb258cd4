import AmbientDecls.Json.Skip
import AmbientDecls.Proofs.Json.Document

/-!
# Skipping documents

A skipped value is taken off the text exactly, whatever it is and however deep its brackets are
nested (`skipValue_document`). The brackets that are open around a value do not matter while it is
skipped, so the induction is on the document alone.
-/

namespace AmbientDecls.Json

/-- The text does not go on with a number that stands before it. -/
def EndsNumber (t : Text) : Prop :=
  ∀ c ∈ t.head?, c.isDigit = false ∧ c ≠ '.' ∧ c ≠ 'e' ∧ c ≠ 'E'

lemma dropDigits_append {ds rest : Text} (hds : ∀ c ∈ ds, c.isDigit = true)
    (hrest : startsWithDigit rest = false) : dropDigits (ds ++ rest) = rest := by
  rw [dropDigits, List.dropWhile_append_of_pos hds]
  cases rest with
  | nil => rfl
  | cons c rest => exact List.dropWhile_cons_of_neg (Bool.eq_false_iff.mp hrest)

lemma IsDigits.exists_cons {ds : Text} (h : IsDigits ds) :
    ∃ d rest, ds = d :: rest ∧ d.isDigit = true ∧ ∀ c ∈ rest, c.isDigit = true := by
  obtain ⟨d, rest, rfl⟩ := List.exists_cons_of_ne_nil h.nonempty
  have hdigits := List.forall_mem_cons.mp h.digits
  exact ⟨d, rest, rfl, hdigits.1, hdigits.2⟩

lemma EndsNumber.startsWithDigit_eq {t : Text} (h : EndsNumber t) : startsWithDigit t = false := by
  cases t with
  | nil => rfl
  | cons c t => exact (h c rfl).1

lemma exponentSign_append_digits {ds : Text} (h : IsDigits ds) (rest : Text) :
    (exponentSign (ds ++ rest)).2 = ds ++ rest := by
  obtain ⟨d, ds', rfl, hd, -⟩ := h.exists_cons
  have hplus : d ≠ '+' := ne_of_isDigit hd rfl
  have hminus : d ≠ '-' := ne_of_isDigit hd rfl
  simp [exponentSign, hplus, hminus]

lemma skipExponent_append {t ds rest : Text} (h : IsDigits ds)
    (hrest : startsWithDigit rest = false) (ht : (exponentSign t).2 = ds ++ rest) :
    skipExponent t = .ok rest := by
  obtain ⟨d, ds', rfl, hd, hds'⟩ := h.exists_cons
  rw [skipExponent, ht, List.cons_append]
  simp only [hd, if_true, dropDigits_append hds' hrest]

lemma skipExponent_text (e : Exponent) {rest : Text} (hrest : startsWithDigit rest = false) :
    skipExponent (e.sign ++ (e.digits ++ rest)) = .ok rest := by
  have hsign := e.isSign
  simp only [List.mem_cons, List.not_mem_nil, or_false] at hsign
  rcases hsign with h | h | h
  · rw [h]
    exact skipExponent_append e.isDigits hrest (exponentSign_append_digits e.isDigits rest)
  · rw [h]
    exact skipExponent_append e.isDigits hrest rfl
  · rw [h]
    exact skipExponent_append e.isDigits hrest rfl

lemma skipExponentPart_append (n : Numeral) {rest : Text} (hrest : EndsNumber rest) :
    skipExponentPart (n.exponentText ++ rest) = .ok rest := by
  unfold Numeral.exponentText
  cases n.exponent with
  | none =>
    cases rest with
    | nil => rfl
    | cons c rest =>
      obtain ⟨-, -, hlower, hupper⟩ := hrest c rfl
      simp [skipExponentPart, hlower, hupper]
  | some e =>
    have hskip := skipExponent_text e hrest.startsWithDigit_eq
    rw [Option.elim_some, Exponent.text, List.cons_append, List.append_assoc]
    rcases e.isMark with h | h
    · rw [h]
      exact hskip
    · rw [h]
      exact hskip

/-- No digit and no point goes on with the digits before an exponent. -/
lemma head_exponentText_append (n : Numeral) {rest : Text} (hrest : EndsNumber rest) :
    ∀ c ∈ (n.exponentText ++ rest).head?, c.isDigit = false ∧ c ≠ '.' := by
  unfold Numeral.exponentText
  cases n.exponent with
  | none =>
    intro c hc
    exact ⟨(hrest c hc).1, (hrest c hc).2.1⟩
  | some e =>
    intro c hc
    cases hc
    rcases e.isMark with h | h
    · rw [h]
      decide
    · rw [h]
      decide

lemma startsWithDigit_eq_false {t : Text} (h : ∀ c ∈ t.head?, c.isDigit = false) :
    startsWithDigit t = false := by
  cases t with
  | nil => rfl
  | cons c t => exact h c rfl

lemma skipAfterInteger_append (n : Numeral) {rest : Text} (hrest : EndsNumber rest) :
    skipAfterInteger (n.fractionText ++ (n.exponentText ++ rest)) = .ok rest := by
  have hexponent := skipExponentPart_append n hrest
  have hhead := head_exponentText_append n hrest
  unfold Numeral.fractionText
  cases hf : n.fraction with
  | none =>
    rw [Option.elim_none, List.nil_append, ← hexponent]
    unfold skipAfterInteger
    split
    · next heq => exact absurd rfl (hhead '.' (by rw [heq]; rfl)).2
    · rfl
  | some ds =>
    obtain ⟨d, ds', rfl, hd, hds'⟩ := (n.isDigits_fraction ds hf).exists_cons
    have hdrop : dropDigits (d :: ds' ++ (n.exponentText ++ rest)) = n.exponentText ++ rest :=
      dropDigits_append (n.isDigits_fraction _ hf).digits
        (startsWithDigit_eq_false fun c hc => (hhead c hc).1)
    rw [Option.elim_some, List.cons_append, skipAfterInteger, hdrop, ← hexponent]
    exact if_pos hd

/-- No digit goes on with the digits before the point. -/
lemma startsWithDigit_fractionText_append (n : Numeral) {rest : Text} (hrest : EndsNumber rest) :
    startsWithDigit (n.fractionText ++ (n.exponentText ++ rest)) = false := by
  unfold Numeral.fractionText
  cases n.fraction with
  | none => exact startsWithDigit_eq_false fun c hc => (head_exponentText_append n hrest c hc).1
  | some ds => rfl

lemma skipUnsigned_append (n : Numeral) {rest : Text} (hrest : EndsNumber rest) :
    skipUnsigned (n.unsignedText ++ rest) = .ok rest := by
  have hafter := skipAfterInteger_append n hrest
  have hdigit := startsWithDigit_fractionText_append n hrest
  obtain ⟨d, ds, hwhole, hd, hds⟩ := n.isDigits_whole.exists_cons
  rw [Numeral.unsignedText, List.append_assoc, List.append_assoc, hwhole, List.cons_append,
    skipUnsigned]
  by_cases hzero : d = '0'
  · have hnil : ds = [] := by
      have hone := n.whole_of_zero (by rw [hwhole, hzero]; rfl)
      rw [hwhole] at hone
      exact (List.cons.inj hone).2
    subst hnil
    simp only [hzero, if_true, List.nil_append, hdigit, Bool.false_eq_true, if_false, hafter]
  · simp only [hzero, if_false, hd, if_true, dropDigits_append hds hdigit, hafter]

lemma skipScalar_number (n : Numeral) {rest body : Text} {c : Char} (hrest : EndsNumber rest)
    (h : n.text ++ rest = c :: body) : skipScalar c body = .ok rest := by
  have hskip := skipUnsigned_append n hrest
  unfold Numeral.text at h
  by_cases hn : n.negative = true
  · rw [if_pos hn, List.cons_append] at h
    obtain ⟨rfl, rfl⟩ := List.cons.inj h
    exact hskip
  · obtain ⟨d, ds, hwhole, hd, -⟩ := n.isDigits_whole.exists_cons
    have hc : c = d := by
      rw [if_neg hn, Numeral.unsignedText, hwhole] at h
      exact (List.cons.inj h).1.symm
    subst hc
    rw [if_neg hn] at h
    have hne : ∀ d : Char, d.isDigit = false → c ≠ d := fun d => ne_of_isDigit hd
    simp [skipScalar, hne, hd, ← h, hskip]

/-! ### Values -/

/-- What may stand behind a value: a comma, the end of a bracket, or nothing. -/
def EndsValue (toks : List Text) : Prop := ∀ tok ∈ toks.head?, tok ∈ [[','], [']'], ['}']]

lemma endsNumber_of_spaced {toks : List Text} {t : Text} (h : Spaced toks t)
    (htoks : EndsValue toks) : EndsNumber t := by
  have hspace : ∀ c : Char, isSpace c = true → c.isDigit = false ∧ c ≠ '.' ∧ c ≠ 'e' ∧ c ≠ 'E' := by
    intro c hc
    simp only [isSpace, Bool.or_eq_true, beq_iff_eq] at hc
    rcases hc with ((rfl | rfl) | rfl) | rfl
    all_goals decide
  intro c hc
  cases h with
  | nil hw => exact hspace c (hw c (List.mem_of_mem_head? hc))
  | @cons w tok t toks hw ht =>
    cases w with
    | cons d w =>
      cases hc
      exact hspace c (hw c List.mem_cons_self)
    | nil =>
      have htok := htoks tok rfl
      simp only [List.mem_cons, List.not_mem_nil, or_false] at htok
      rcases htok with rfl | rfl | rfl
      all_goals
        cases hc
        decide

lemma endsValue_elementTokens (ds : List Document) (toks : List Text) :
    EndsValue (elementTokens false ds ++ toks) := by
  intro tok htok
  cases ds with
  | nil =>
    cases htok
    decide
  | cons d ds =>
    cases htok
    decide

lemma endsValue_memberTokens (ms : List (StringBody × Document)) (toks : List Text) :
    EndsValue (memberTokens false ms ++ toks) := by
  intro tok htok
  cases ms with
  | nil =>
    cases htok
    decide
  | cons m ms =>
    cases htok
    decide

section Steps

variable {b : Bracket} {outer : List Bracket} {t body rest : Text} {c : Char}

lemma skipInside_array (h : skipSpace t = '[' :: body) :
    skipInside outer t = skipFirst .array outer body := by
  rw [skipInside]
  split
  · next heq => cases h.symm.trans heq
  · next heq =>
    cases h.symm.trans heq
    rfl

lemma skipInside_object (h : skipSpace t = '{' :: body) :
    skipInside outer t = skipFirst .object outer body := by
  rw [skipInside]
  split
  · next heq => cases h.symm.trans heq
  · next heq =>
    cases h.symm.trans heq
    rfl

lemma skipInside_scalar (h : skipSpace t = c :: body) (hbracket : c ≠ '[') (hbrace : c ≠ '{')
    (hscalar : skipScalar c body = .ok rest) : skipInside outer t = skipClosing outer rest := by
  rw [skipInside]
  split
  · next heq => cases h.symm.trans heq
  · next heq =>
    cases h.symm.trans heq
    rw [if_neg hbracket, if_neg hbrace]
    split
    · next he => cases hscalar.symm.trans he
    · next he =>
      cases hscalar.symm.trans he
      rfl

lemma skipFirst_closing (h : skipSpace t = b.closing :: rest) :
    skipFirst b outer t = skipClosing outer rest := by
  rw [skipFirst]
  split
  · next heq => cases h.symm.trans heq
  · next heq =>
    cases h.symm.trans heq
    rw [if_pos rfl]

lemma skipFirst_value (h : skipSpace t = c :: body) (hc : c ≠ b.closing)
    (hvalue : b.nextValue (c :: body) = .ok rest) :
    skipFirst b outer t = skipInside (b :: outer) rest := by
  rw [skipFirst]
  split
  · next heq => cases h.symm.trans heq
  · next heq =>
    cases h.symm.trans heq
    rw [if_neg hc]
    split
    · next he => cases hvalue.symm.trans he
    · next he =>
      cases hvalue.symm.trans he
      rfl

lemma skipClosing_closing (h : skipSpace t = b.closing :: rest) :
    skipClosing (b :: outer) t = skipClosing outer rest := by
  rw [skipClosing]
  split
  · next heq => cases h.symm.trans heq
  · next heq =>
    cases h.symm.trans heq
    rw [if_pos rfl]

lemma skipClosing_comma (h : skipSpace t = ',' :: body) (hvalue : b.nextValue body = .ok rest) :
    skipClosing (b :: outer) t = skipInside (b :: outer) rest := by
  have hclosing : ',' ≠ b.closing := by
    cases b with
    | array => decide
    | object => decide
  rw [skipClosing]
  split
  · next heq => cases h.symm.trans heq
  · next heq =>
    cases h.symm.trans heq
    rw [if_neg hclosing, if_pos rfl]
    split
    · next he => cases hvalue.symm.trans he
    · next he =>
      cases hvalue.symm.trans he
      rfl

end Steps

lemma skipKey_quoted {b : StringBody} {toks : List Text} {t : Text}
    (h : Spaced (b.quoted :: [':'] :: toks) t) : ∃ t', skipKey t = .ok t' ∧ Spaced toks t' := by
  obtain ⟨t₁, hskip, ht₁⟩ := skipSpace_of_spaced h rfl
  obtain ⟨t', hcolon, ht'⟩ := colon_of_spaced ht₁
  have hstring : skipString (b.text ++ ['"'] ++ t₁) = .ok t₁ := by
    rw [List.append_assoc]
    exact skipString_append_quote b.isStringBody t₁
  exact ⟨t', by simp only [skipKey, hskip, if_true, hstring, hcolon], ht'⟩

mutual

/-- A value is skipped, and what is left stands behind it. -/
theorem skipInside_document (outer : List Bracket) {toks : List Text} {t : Text}
    (htoks : EndsValue toks) : ∀ d : Document, Spaced (d.tokens ++ toks) t →
      ∃ t', skipInside outer t = skipClosing outer t' ∧ Spaced toks t'
  | .null, h => by
    obtain ⟨t', hskip, ht'⟩ := skipSpace_of_spaced h rfl
    exact ⟨t', skipInside_scalar hskip (by decide) (by decide) (keyword_append _ t'), ht'⟩
  | .bool true, h => by
    obtain ⟨t', hskip, ht'⟩ := skipSpace_of_spaced h rfl
    exact ⟨t', skipInside_scalar hskip (by decide) (by decide) (keyword_append _ t'), ht'⟩
  | .bool false, h => by
    obtain ⟨t', hskip, ht'⟩ := skipSpace_of_spaced h rfl
    exact ⟨t', skipInside_scalar hskip (by decide) (by decide) (keyword_append _ t'), ht'⟩
  | .number n, h => by
    obtain ⟨c, body, htext, hc⟩ := n.exists_text_eq
    have hstart : startsValue c = true ∧ c ≠ '[' ∧ c ≠ '{' := by
      rcases hc with rfl | hc
      · decide
      · exact ⟨startsValue_of_isDigit hc, ne_of_isDigit hc rfl, ne_of_isDigit hc rfl⟩
    have htokens : (Document.number n).tokens = [c :: body] := by rw [Document.tokens, htext]
    rw [htokens] at h
    obtain ⟨t', hskip, ht'⟩ := skipSpace_of_spaced h (not_space_of_startsValue hstart.1)
    have hscalar : skipScalar c (body ++ t') = .ok t' :=
      skipScalar_number n (endsNumber_of_spaced ht' htoks) (by rw [htext, List.cons_append])
    exact ⟨t', skipInside_scalar hskip hstart.2.1 hstart.2.2 hscalar, ht'⟩
  | .string b, h => by
    obtain ⟨t', hskip, ht'⟩ := skipSpace_of_spaced h rfl
    rw [List.append_assoc] at hskip
    exact ⟨t', skipInside_scalar hskip (by decide) (by decide)
      (skipString_append_quote b.isStringBody t'), ht'⟩
  | .array [], h => by
    obtain ⟨t₁, hopening, ht₁⟩ := skipSpace_of_spaced h rfl
    obtain ⟨t', hclosing, ht'⟩ := skipSpace_of_spaced ht₁ rfl
    exact ⟨t', (skipInside_array hopening).trans (skipFirst_closing hclosing), ht'⟩
  | .array (d :: ds), h => by
    rw [Document.tokens, List.cons_append, elementTokens_cons_append] at h
    obtain ⟨t₁, hopening, ht₁⟩ := skipSpace_of_spaced h rfl
    have htail : Spaced (d.tokens ++ (elementTokens false ds ++ toks)) t₁ := ht₁
    obtain ⟨c, body, hskip, hstart, -, hd⟩ := d.exists_skipSpace_eq htail
    -- The first character is looked at but not taken, so the value still stands there as a whole.
    have hfirst : skipFirst .array outer t₁ = skipInside (.array :: outer) (c :: body) :=
      skipFirst_value hskip (ne_of_startsValue hstart rfl) rfl
    obtain ⟨t₂, hvalue, ht₂⟩ :=
      skipInside_document (.array :: outer) (endsValue_elementTokens ds toks) d hd
    obtain ⟨t', hrest, ht'⟩ := skipClosing_elements outer ds ht₂
    exact ⟨t', (skipInside_array hopening).trans (hfirst.trans (hvalue.trans hrest)), ht'⟩
  | .object [], h => by
    obtain ⟨t₁, hopening, ht₁⟩ := skipSpace_of_spaced h rfl
    obtain ⟨t', hclosing, ht'⟩ := skipSpace_of_spaced ht₁ rfl
    exact ⟨t', (skipInside_object hopening).trans (skipFirst_closing hclosing), ht'⟩
  | .object ((b, d) :: ms), h => by
    rw [Document.tokens, List.cons_append, memberTokens_cons_append] at h
    obtain ⟨t₁, hopening, ht₁⟩ := skipSpace_of_spaced h rfl
    obtain ⟨t₂, hquote, ht₂⟩ := skipSpace_of_spaced ht₁ rfl
    obtain ⟨t₃, hcolon, ht₃⟩ := skipKey_quoted (ht₂.tight b.quoted)
    obtain ⟨t₄, hvalue, ht₄⟩ :=
      skipInside_document (.object :: outer) (endsValue_memberTokens ms toks) d ht₃
    obtain ⟨t', hrest, ht'⟩ := skipClosing_members outer ms ht₄
    have hfirst : skipFirst .object outer t₁ = skipInside (.object :: outer) t₃ :=
      skipFirst_value hquote (by decide) hcolon
    exact ⟨t', (skipInside_object hopening).trans (hfirst.trans (hvalue.trans hrest)), ht'⟩

/-- Behind an element, the rest of an array is skipped. -/
theorem skipClosing_elements (outer : List Bracket) {toks : List Text} {t : Text} :
    ∀ ds : List Document, Spaced (elementTokens false ds ++ toks) t →
      ∃ t', skipClosing (.array :: outer) t = skipClosing outer t' ∧ Spaced toks t'
  | [], h => by
    obtain ⟨t', hclosing, ht'⟩ := skipSpace_of_spaced h rfl
    exact ⟨t', skipClosing_closing hclosing, ht'⟩
  | d :: ds, h => by
    rw [elementTokens_cons_append] at h
    obtain ⟨t₁, hcomma, ht₁⟩ := skipSpace_of_spaced h rfl
    have htail : Spaced (d.tokens ++ (elementTokens false ds ++ toks)) t₁ := ht₁
    obtain ⟨t₂, hvalue, ht₂⟩ :=
      skipInside_document (.array :: outer) (endsValue_elementTokens ds toks) d htail
    obtain ⟨t', hrest, ht'⟩ := skipClosing_elements outer ds ht₂
    exact ⟨t', (skipClosing_comma hcomma rfl).trans (hvalue.trans hrest), ht'⟩

/-- Behind a member, the rest of an object is skipped. -/
theorem skipClosing_members (outer : List Bracket) {toks : List Text} {t : Text} :
    ∀ ms : List (StringBody × Document), Spaced (memberTokens false ms ++ toks) t →
      ∃ t', skipClosing (.object :: outer) t = skipClosing outer t' ∧ Spaced toks t'
  | [], h => by
    obtain ⟨t', hclosing, ht'⟩ := skipSpace_of_spaced h rfl
    exact ⟨t', skipClosing_closing hclosing, ht'⟩
  | (b, d) :: ms, h => by
    rw [memberTokens_cons_append] at h
    obtain ⟨t₁, hcomma, ht₁⟩ := skipSpace_of_spaced h rfl
    obtain ⟨t₂, hcolon, ht₂⟩ := skipKey_quoted ht₁
    obtain ⟨t₃, hvalue, ht₃⟩ :=
      skipInside_document (.object :: outer) (endsValue_memberTokens ms toks) d ht₂
    obtain ⟨t', hrest, ht'⟩ := skipClosing_members outer ms ht₃
    exact ⟨t', (skipClosing_comma (b := .object) hcomma hcolon).trans (hvalue.trans hrest), ht'⟩

end

/-- A value under a key that means nothing is taken off exactly. -/
theorem skipValue_document {d : Document} {toks : List Text} {t : Text} (htoks : EndsValue toks)
    (h : Spaced (d.tokens ++ toks) t) : ∃ t', skipValue t = .ok t' ∧ Spaced toks t' := by
  obtain ⟨t', hskip, ht'⟩ := skipInside_document [] htoks d h
  exact ⟨t', by rw [skipValue, hskip, skipClosing], ht'⟩

end AmbientDecls.Json
