import AmbientDecls.Json.StringBody
import Mathlib.Data.List.Basic

/-!
# The spellings of strings

What may stand between the quotes of a JSON string, and which text it spells. A text has many
spellings: any character may be an escape, and one above the first plane a pair of them. Escapes
that stand for half a pair belong to strings too, but spell nothing. The reader finds the text of
every spelling (`stringBody_of_spells`) and reads nothing else (`spells_of_stringBody`), and
skipping finds the end of every string (`skipString_append_quote`).
-/

namespace AmbientDecls.Json

/-- The letters of the escapes that are one letter long, and what they stand for. -/
def escapeLetters : List (Char × Char) :=
  [('"', '"'), ('\\', '\\'), ('/', '/'), ('b', '\x08'), ('f', '\x0c'), ('n', '\n'), ('r', '\r'),
    ('t', '\t')]

/-- The character may stand for itself between quotes. -/
def IsPlain (c : Char) : Prop := c ≠ '"' ∧ c ≠ '\\' ∧ isControl c = false

/-- The text may stand between quotes. -/
inductive IsStringBody : Text → Prop
  | nil : IsStringBody []
  | plain {c : Char} {t : Text} (hc : IsPlain c) (ht : IsStringBody t) : IsStringBody (c :: t)
  | letter {e : Char} {t : Text} (he : e ∈ escapeLetters.map Prod.fst) (ht : IsStringBody t) :
      IsStringBody ('\\' :: e :: t)
  | unit {a b c d : Char} {n : Nat} {t : Text} (hn : hexQuad a b c d = some n)
      (ht : IsStringBody t) : IsStringBody ('\\' :: 'u' :: a :: b :: c :: d :: t)

/-- The first text, between quotes, is a way to write the second. -/
inductive Spells : Text → Text → Prop
  | nil : Spells [] []
  | plain {c : Char} {t s : Text} (hc : IsPlain c) (ht : Spells t s) : Spells (c :: t) (c :: s)
  | letter {e c : Char} {t s : Text} (he : (e, c) ∈ escapeLetters) (ht : Spells t s) :
      Spells ('\\' :: e :: t) (c :: s)
  | unit {a b c d : Char} {n : Nat} {t s : Text} (hn : hexQuad a b c d = some n)
      (hlow : isLowSurrogate n = false) (hhigh : isHighSurrogate n = false) (ht : Spells t s) :
      Spells ('\\' :: 'u' :: a :: b :: c :: d :: t) (Char.ofNat n :: s)
  | pair {a b c d a' b' c' d' : Char} {n m : Nat} {t s : Text} (hn : hexQuad a b c d = some n)
      (hhigh : isHighSurrogate n = true) (hm : hexQuad a' b' c' d' = some m)
      (hlow : isLowSurrogate m = true) (ht : Spells t s) :
      Spells ('\\' :: 'u' :: a :: b :: c :: d :: '\\' :: 'u' :: a' :: b' :: c' :: d' :: t)
        (Char.ofNat (0x10000 + (n - 0xD800) * 0x400 + (m - 0xDC00)) :: s)

lemma Spells.isStringBody {t s : Text} (h : Spells t s) : IsStringBody t := by
  induction h with
  | nil => exact .nil
  | plain hc _ ih => exact .plain hc ih
  | letter he _ ih => exact .letter (List.mem_map.mpr ⟨_, he, rfl⟩) ih
  | unit hn _ _ _ ih => exact .unit hn ih
  | pair hn _ hm _ _ ih => exact .unit hn (.unit hm ih)

lemma stringBody_quote (decoded rest : Text) :
    stringBody decoded ('"' :: rest) = .ok (decoded.reverse, rest) := by
  rw [stringBody, if_pos rfl]

lemma stringBody_plain {c : Char} (hc : IsPlain c) (decoded rest : Text) :
    stringBody decoded (c :: rest) = stringBody (c :: decoded) rest := by
  rw [stringBody, if_neg hc.1, if_neg hc.2.1, hc.2.2]
  rfl

lemma stringBody_escape {d : Char} {t rest : Text} (h : escape t = .ok (d, rest))
    (decoded : Text) : stringBody decoded ('\\' :: t) = stringBody (d :: decoded) rest := by
  rw [stringBody, if_neg (by decide), if_pos rfl]
  split
  · next he =>
    rw [h] at he
    cases he
  · next he =>
    rw [h] at he
    cases he
    rfl

lemma escape_letter {e c : Char} (h : (e, c) ∈ escapeLetters) (t : Text) :
    escape (e :: t) = .ok (c, t) := by
  simp only [escapeLetters, List.mem_cons, Prod.mk.injEq, List.not_mem_nil, or_false] at h
  rcases h with ⟨rfl, rfl⟩ | ⟨rfl, rfl⟩ | ⟨rfl, rfl⟩ | ⟨rfl, rfl⟩ | ⟨rfl, rfl⟩ | ⟨rfl, rfl⟩ |
    ⟨rfl, rfl⟩ | ⟨rfl, rfl⟩
  all_goals rfl

lemma codeUnit_of_hexQuad {a b c d : Char} {n : Nat} (h : hexQuad a b c d = some n) (t : Text) :
    codeUnit (a :: b :: c :: d :: t) = .ok (n, t) := by
  simp only [codeUnit, h]

lemma escape_unit {a b c d : Char} {n : Nat} (hn : hexQuad a b c d = some n)
    (hlow : isLowSurrogate n = false) (hhigh : isHighSurrogate n = false) (t : Text) :
    escape ('u' :: a :: b :: c :: d :: t) = .ok (Char.ofNat n, t) := by
  change unicodeEscape (a :: b :: c :: d :: t) = .ok (Char.ofNat n, t)
  simp only [unicodeEscape, codeUnit_of_hexQuad hn, bind, Except.bind, hlow, hhigh,
    Bool.false_eq_true, if_false]

lemma escape_pair {a b c d a' b' c' d' : Char} {n m : Nat} (hn : hexQuad a b c d = some n)
    (hhigh : isHighSurrogate n = true) (hm : hexQuad a' b' c' d' = some m)
    (hlow : isLowSurrogate m = true) (t : Text) :
    escape ('u' :: a :: b :: c :: d :: '\\' :: 'u' :: a' :: b' :: c' :: d' :: t) =
      .ok (Char.ofNat (0x10000 + (n - 0xD800) * 0x400 + (m - 0xDC00)), t) := by
  change unicodeEscape (a :: b :: c :: d :: '\\' :: 'u' :: a' :: b' :: c' :: d' :: t) = _
  have hnlow : isLowSurrogate n = false := by
    simp only [isHighSurrogate, isLowSurrogate, Bool.and_eq_true, decide_eq_true_eq,
      Bool.and_eq_false_iff, decide_eq_false_iff_not] at hhigh ⊢
    omega
  simp only [unicodeEscape, codeUnit_of_hexQuad hn, codeUnit_of_hexQuad hm, escapeGoesOn, bind,
    Except.bind, hnlow, hhigh, hlow, Bool.false_eq_true, if_false, if_true]

/-- Whatever stands behind the closing quote, a spelling is read as what it spells. -/
theorem stringBody_of_spells {t s : Text} (h : Spells t s) (decoded rest : Text) :
    stringBody decoded (t ++ '"' :: rest) = .ok (decoded.reverse ++ s, rest) := by
  induction h generalizing decoded with
  | nil => rw [List.nil_append, stringBody_quote, List.append_nil]
  | plain hc _ ih =>
    rw [List.cons_append, stringBody_plain hc, ih, List.reverse_cons, ← List.append_cons]
  | letter he _ ih =>
    rw [List.cons_append, List.cons_append, stringBody_escape (escape_letter he _), ih,
      List.reverse_cons, ← List.append_cons]
  | unit hn hlow hhigh _ ih =>
    simp only [List.cons_append]
    rw [stringBody_escape (escape_unit hn hlow hhigh _), ih, List.reverse_cons, ← List.append_cons]
  | pair hn hhigh hm hlow _ ih =>
    simp only [List.cons_append]
    rw [stringBody_escape (escape_pair hn hhigh hm hlow _), ih, List.reverse_cons,
      ← List.append_cons]

/-! ### Only spellings are read -/

lemma exists_of_stringBody_escape {decoded t s rest : Text}
    (h : stringBody decoded ('\\' :: t) = .ok (s, rest)) :
    ∃ c t', escape t = .ok (c, t') ∧ stringBody (c :: decoded) t' = .ok (s, rest) := by
  rw [stringBody, if_neg (by decide), if_pos rfl] at h
  split at h
  · cases h
  · next c t' he => exact ⟨c, t', he, h⟩

lemma eq_cons_of_escapeGoesOn {c : Char} {t rest : Text} (h : escapeGoesOn c t = .ok rest) :
    t = c :: rest := by
  cases t with
  | nil => cases h
  | cons d t =>
    rw [escapeGoesOn] at h
    split at h
    · next hd =>
      cases h
      rw [hd]
    · cases h

/-- An escape of four digits is a character, or the first half of a pair. -/
lemma unit_or_pair_of_escape {a b c d e : Char} {n : Nat} {t rest : Text}
    (hn : hexQuad a b c d = some n) (h : escape ('u' :: a :: b :: c :: d :: t) = .ok (e, rest)) :
    (isLowSurrogate n = false ∧ isHighSurrogate n = false ∧ e = Char.ofNat n ∧ rest = t) ∨
      ∃ u m, isHighSurrogate n = true ∧ t = '\\' :: 'u' :: u ∧ codeUnit u = .ok (m, rest) ∧
        isLowSurrogate m = true ∧
        e = Char.ofNat (0x10000 + (n - 0xD800) * 0x400 + (m - 0xDC00)) := by
  change unicodeEscape (a :: b :: c :: d :: t) = .ok (e, rest) at h
  simp only [unicodeEscape, codeUnit_of_hexQuad hn, bind, Except.bind] at h
  split at h
  · cases h
  · next hlow =>
    split at h
    · next hhigh =>
      right
      cases h₁ : escapeGoesOn '\\' t with
      | error e => rw [h₁] at h; cases h
      | ok t₁ =>
        cases h₂ : escapeGoesOn 'u' t₁ with
        | error e => simp only [h₁, h₂] at h; cases h
        | ok t₂ =>
          cases h₃ : codeUnit t₂ with
          | error e => simp only [h₁, h₂, h₃] at h; cases h
          | ok p =>
            simp only [h₁, h₂, h₃] at h
            split at h
            · next hm =>
              obtain ⟨he, rfl⟩ := Prod.mk.inj (Except.ok.inj h)
              have ht : t = '\\' :: 'u' :: t₂ := by
                rw [eq_cons_of_escapeGoesOn h₁, eq_cons_of_escapeGoesOn h₂]
              exact ⟨t₂, p.1, hhigh, ht, h₃, hm, he.symm⟩
            · cases h
    · next hhigh =>
      cases h
      exact .inl ⟨eq_false_of_ne_true hlow, eq_false_of_ne_true hhigh, rfl, rfl⟩

/-- What is read of a string is a text that it spells, and is read up to the closing quote. -/
theorem spells_of_stringBody {t : Text} (ht : IsStringBody t) {decoded s rest rest' : Text}
    (h : stringBody decoded (t ++ '"' :: rest) = .ok (s, rest')) :
    ∃ s', Spells t s' ∧ s = decoded.reverse ++ s' ∧ rest' = rest := by
  -- A pair of escapes takes two steps of the string at once, so the induction is on its length.
  induction hlen : t.length using Nat.strongRecOn generalizing t decoded with
  | _ len ih =>
    subst hlen
    cases ht with
    | nil =>
      rw [List.nil_append, stringBody_quote] at h
      cases h
      exact ⟨[], .nil, (List.append_nil _).symm, rfl⟩
    | @plain c t hc ht =>
      rw [List.cons_append, stringBody_plain hc] at h
      obtain ⟨s', hs', rfl, hrest⟩ := ih t.length (Nat.lt_succ_self _) ht h rfl
      exact ⟨c :: s', .plain hc hs', by rw [List.reverse_cons, ← List.append_cons], hrest⟩
    | @letter e t he ht =>
      obtain ⟨⟨e, c⟩, hmem, rfl⟩ := List.mem_map.mp he
      rw [List.cons_append, List.cons_append, stringBody_escape (escape_letter hmem _)] at h
      obtain ⟨s', hs', rfl, hrest⟩ := ih t.length (by simp only [List.length_cons]; omega) ht h rfl
      exact ⟨c :: s', .letter hmem hs', by rw [List.reverse_cons, ← List.append_cons], hrest⟩
    | @unit a b c d n t hn ht =>
      simp only [List.cons_append] at h
      obtain ⟨e, t', hescape, h⟩ := exists_of_stringBody_escape h
      rcases unit_or_pair_of_escape hn hescape with
        ⟨hlow, hhigh, he, rfl⟩ | ⟨u, m, hhigh, hu, hm, hlow, he⟩
      · obtain ⟨s', hs', rfl, hrest⟩ :=
          ih t.length (by simp only [List.length_cons]; omega) ht h rfl
        rw [he, List.reverse_cons, ← List.append_cons]
        exact ⟨_, .unit hn hlow hhigh hs', rfl, hrest⟩
      · -- The string goes on with a second escape of four digits.
        cases ht with
        | nil => exact absurd (List.cons.inj hu).1 (by decide)
        | plain hc => exact absurd (List.cons.inj hu).1 hc.2.1
        | letter he =>
          obtain ⟨rfl, -⟩ := List.cons.inj (List.cons.inj hu).2
          exact absurd he (by decide)
        | @unit a' b' c' d' m' t hm' ht =>
          obtain ⟨-, hu⟩ := List.cons.inj (List.cons.inj hu).2
          have hdigits : u = a' :: b' :: c' :: d' :: (t ++ '"' :: rest) := hu.symm
          rw [hdigits, codeUnit_of_hexQuad hm'] at hm
          obtain ⟨rfl, rfl⟩ := Prod.mk.inj (Except.ok.inj hm)
          obtain ⟨s', hs', rfl, hrest⟩ :=
            ih t.length (by simp only [List.length_cons]; omega) ht h rfl
          rw [he, List.reverse_cons, ← List.append_cons]
          exact ⟨_, .pair hn hhigh hm' hlow hs', rfl, hrest⟩

/-- An escape for half of a pair spells nothing without the other half behind it. -/
lemma not_spells_half {a b c d : Char} {n : Nat} {t : Text} (hn : hexQuad a b c d = some n)
    (hhalf : isLowSurrogate n = true ∨ isHighSurrogate n = true ∧ t.head? ≠ some '\\') (s : Text) :
    ¬Spells ('\\' :: 'u' :: a :: b :: c :: d :: t) s := by
  intro h
  cases h with
  | plain hc _ => exact hc.2.1 rfl
  | letter he _ => simp [escapeLetters] at he
  | unit hn' hlow hhigh _ =>
    cases hn.symm.trans hn'
    rcases hhalf with h | ⟨h, -⟩
    · exact Bool.false_ne_true (hlow.symm.trans h)
    · exact Bool.false_ne_true (hhigh.symm.trans h)
  | pair hn' hhigh _ _ _ =>
    cases hn.symm.trans hn'
    rcases hhalf with h | ⟨-, h⟩
    · simp only [isHighSurrogate, isLowSurrogate, Bool.and_eq_true, decide_eq_true_eq] at hhigh h
      omega
    · exact h rfl

lemma skipString_escape {t rest : Text} (h : skipEscape t = .ok rest) :
    skipString ('\\' :: t) = skipString rest := by
  rw [skipString, if_neg (by decide), if_pos rfl]
  split
  · next he =>
    rw [h] at he
    cases he
  · next he =>
    rw [h] at he
    cases he
    rfl

/-- Skipping stops right behind the closing quote. -/
theorem skipString_append_quote {t : Text} (h : IsStringBody t) (rest : Text) :
    skipString (t ++ '"' :: rest) = .ok rest := by
  induction h with
  | nil => rw [List.nil_append, skipString, if_pos rfl]
  | plain hc _ ih =>
    rw [List.cons_append, skipString, if_neg hc.1, if_neg hc.2.1, hc.2.2]
    exact ih
  | @letter e t he _ ih =>
    have hskip : skipEscape (e :: (t ++ '"' :: rest)) = .ok (t ++ '"' :: rest) := if_pos he
    rw [List.cons_append, List.cons_append, skipString_escape hskip, ih]
  | @unit a b c d n t hn _ ih =>
    have hskip : skipEscape ('u' :: a :: b :: c :: d :: (t ++ '"' :: rest)) =
        .ok (t ++ '"' :: rest) := by
      rw [skipEscape, if_neg (by decide), if_pos rfl, codeUnit_of_hexQuad hn]
      rfl
    simp only [List.cons_append]
    rw [skipString_escape hskip, ih]

/-- A character between quotes: the quote, the backslash and controls are escapes, with a letter
where there is one. -/
def escapeChar (c : Char) : Text :=
  match c with
  | '"' => ['\\', '"']
  | '\\' => ['\\', '\\']
  | '\x08' => ['\\', 'b']
  | '\x0c' => ['\\', 'f']
  | '\n' => ['\\', 'n']
  | '\r' => ['\\', 'r']
  | '\t' => ['\\', 't']
  | c =>
    if isControl c then
      ['\\', 'u', '0', '0', Nat.digitChar (c.toNat / 16), Nat.digitChar (c.toNat % 16)]
    else [c]

/-- A text between quotes. -/
def escapeText (s : Text) : Text := s.flatMap escapeChar

lemma hexQuad_digitChar {n : Nat} (h : n < 256) :
    hexQuad '0' '0' (Nat.digitChar (n / 16)) (Nat.digitChar (n % 16)) = some n := by
  have hdigit : ∀ k < 16, hexValue (Nat.digitChar k) = some k := by decide
  have hzero : hexValue '0' = some 0 := rfl
  simp only [hexQuad, hzero, hdigit (n / 16) (by omega), hdigit (n % 16) (by omega), bind,
    Option.bind, pure]
  congr
  omega

lemma spells_escapeChar_append (c : Char) {t s : Text} (ht : Spells t s) :
    Spells (escapeChar c ++ t) (c :: s) := by
  unfold escapeChar
  split
  case h_8 hquote hslash _ _ _ _ _ =>
    by_cases hc : isControl c = true
    · rw [if_pos hc]
      have hn : c.toNat < 32 := of_decide_eq_true hc
      have hlow : isLowSurrogate c.toNat = false := by
        simp [isLowSurrogate]
        omega
      have hhigh : isHighSurrogate c.toNat = false := by
        simp [isHighSurrogate]
        omega
      have hunit := Spells.unit (hexQuad_digitChar (by omega : c.toNat < 256)) hlow hhigh ht
      rw [Char.ofNat_toNat] at hunit
      exact hunit
    · rw [if_neg hc]
      exact .plain ⟨hquote, hslash, eq_false_of_ne_true hc⟩ ht
  all_goals exact .letter (by decide) ht

theorem spells_escapeText (s : Text) : Spells (escapeText s) s := by
  induction s with
  | nil => exact .nil
  | cons c s ih => exact spells_escapeChar_append c ih

end AmbientDecls.Json
