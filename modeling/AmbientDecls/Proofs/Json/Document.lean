import AmbientDecls.Proofs.Json.StringBody
import Mathlib.Data.List.TakeWhile

/-!
# JSON documents

A document is a JSON value as it is written, apart from the blanks between its tokens: a string
keeps its spelling and a number its digits, and an object keeps the order and the repetitions of its
keys. `Spaced` relates the tokens of documents to the texts that have them in order. What the steps
of a reader leave of a spaced text is a spaced text again.
-/

namespace AmbientDecls.Json

/-- What stands between the quotes of a string. -/
structure StringBody where
  text : Text
  isStringBody : IsStringBody text

/-- The string as it is written. -/
def StringBody.quoted (b : StringBody) : Text := '"' :: (b.text ++ ['"'])

/-- The shortest spelling of a text. -/
def StringBody.ofString (s : String) : StringBody :=
  ⟨escapeText s.toList, (spells_escapeText s.toList).isStringBody⟩

structure IsDigits (t : Text) : Prop where
  nonempty : t ≠ []
  digits : ∀ c ∈ t, c.isDigit = true

lemma isDigits_singleton {c : Char} (hc : c.isDigit = true) : IsDigits [c] :=
  ⟨List.cons_ne_nil _ _, List.forall_mem_singleton.mpr hc⟩

/-- The exponent of a number as it is written. -/
structure Exponent where
  mark : Char
  sign : Text
  digits : Text
  isMark : mark = 'e' ∨ mark = 'E'
  isSign : sign ∈ [[], ['+'], ['-']]
  isDigits : IsDigits digits

def Exponent.text (e : Exponent) : Text := e.mark :: (e.sign ++ e.digits)

/-- A number as it is written: digits, of which a zero is the first only if it is the only one, and
maybe digits behind a point and an exponent. -/
structure Numeral where
  negative : Bool
  whole : Text
  fraction : Option Text
  exponent : Option Exponent
  isDigits_whole : IsDigits whole
  whole_of_zero : whole.head? = some '0' → whole = ['0']
  isDigits_fraction : ∀ ds ∈ fraction, IsDigits ds

namespace Numeral

def fractionText (n : Numeral) : Text := n.fraction.elim [] ('.' :: ·)

def exponentText (n : Numeral) : Text := n.exponent.elim [] Exponent.text

def unsignedText (n : Numeral) : Text := n.whole ++ (n.fractionText ++ n.exponentText)

/-- The number as it is written. -/
def text (n : Numeral) : Text := if n.negative then '-' :: n.unsignedText else n.unsignedText

end Numeral

/-- A JSON value as it is written, but for the blanks. -/
inductive Document where
  | null
  | bool (value : Bool)
  | number (numeral : Numeral)
  | string (body : StringBody)
  | array (elements : List Document)
  | object (members : List (StringBody × Document))

/-- What divides an element or a member from those before it. -/
def separator (first : Bool) : List Text := if first then [] else [[',']]

mutual

/-- The tokens of a document, in order. -/
def Document.tokens : Document → List Text
  | .null => ["null".toList]
  | .bool b => [(if b then "true" else "false").toList]
  | .number n => [n.text]
  | .string b => [b.quoted]
  | .array ds => ['['] :: elementTokens true ds
  | .object ms => ['{'] :: memberTokens true ms

/-- The tokens of the elements of an array and of its end. -/
def elementTokens (first : Bool) : List Document → List Text
  | [] => [[']']]
  | d :: ds => separator first ++ (d.tokens ++ elementTokens false ds)

/-- The tokens of the members of an object and of its end. -/
def memberTokens (first : Bool) : List (StringBody × Document) → List Text
  | [] => [['}']]
  | (b, d) :: ms => separator first ++ (b.quoted :: [':'] :: (d.tokens ++ memberTokens false ms))

end

lemma elementTokens_cons_append (first : Bool) (d : Document) (ds : List Document)
    (toks : List Text) : elementTokens first (d :: ds) ++ toks =
      separator first ++ (d.tokens ++ (elementTokens false ds ++ toks)) := by
  rw [elementTokens, List.append_assoc, List.append_assoc]

lemma memberTokens_cons_append (first : Bool) (b : StringBody) (d : Document)
    (ms : List (StringBody × Document)) (toks : List Text) :
    memberTokens first ((b, d) :: ms) ++ toks = separator first ++
      (b.quoted :: [':'] :: (d.tokens ++ (memberTokens false ms ++ toks))) := by
  rw [memberTokens, List.append_assoc, List.cons_append, List.cons_append, List.append_assoc]

/-- The document without a blank between its tokens. -/
def Document.compact (d : Document) : Text := d.tokens.flatten

/-- The text has the tokens in order, with blanks around and between them. -/
inductive Spaced : List Text → Text → Prop
  | nil {w : Text} (hw : ∀ c ∈ w, isSpace c = true) : Spaced [] w
  | cons {w tok t : Text} {toks : List Text} (hw : ∀ c ∈ w, isSpace c = true)
      (ht : Spaced toks t) : Spaced (tok :: toks) (w ++ (tok ++ t))

namespace Spaced

lemma tight {toks : List Text} {t : Text} (h : Spaced toks t) (tok : Text) :
    Spaced (tok :: toks) (tok ++ t) := .cons (w := []) (fun _ hc => nomatch hc) h

/-- The same blanks may stand in front of every token. -/
lemma flatMap_append {w : Text} (hw : ∀ c ∈ w, isSpace c = true) (toks : List Text) :
    Spaced toks (toks.flatMap (w ++ ·)) := by
  induction toks with
  | nil => exact .nil fun _ hc => nomatch hc
  | cons tok toks ih =>
    rw [List.flatMap_cons, List.append_assoc]
    exact .cons hw ih

lemma flatten (toks : List Text) : Spaced toks toks.flatten :=
  List.flatMap_id (L := toks) ▸ flatMap_append (w := []) (fun _ hc => nomatch hc) toks

end Spaced

lemma skipSpace_append {w : Text} (hw : ∀ c ∈ w, isSpace c = true) (t : Text) :
    skipSpace (w ++ t) = skipSpace t := List.dropWhile_append_of_pos hw

lemma skipSpace_cons {c : Char} (hc : isSpace c = false) (t : Text) :
    skipSpace (c :: t) = c :: t := List.dropWhile_cons_of_neg (Bool.eq_false_iff.mp hc)

lemma skipSpace_of_spaced_nil {t : Text} (h : Spaced [] t) : skipSpace t = [] := by
  cases h with
  | nil hw => exact List.dropWhile_eq_nil_iff.mpr hw

/-- The next token is what a reader sees behind the blanks. -/
lemma skipSpace_of_spaced {c : Char} {tok t : Text} {toks : List Text}
    (h : Spaced ((c :: tok) :: toks) t) (hc : isSpace c = false) :
    ∃ t', skipSpace t = c :: (tok ++ t') ∧ Spaced toks t' := by
  cases h with
  | @cons w tok t' toks hw ht =>
    refine ⟨t', ?_, ht⟩
    rw [skipSpace_append hw, List.cons_append, skipSpace_cons hc]

lemma keyword_append (word rest : Text) : keyword word (word ++ rest) = .ok rest := by
  induction word with
  | nil => rfl
  | cons c word ih => rw [List.cons_append, keyword, if_pos rfl, ih]

/-- The character is no blank and ends nothing. -/
def startsValue (c : Char) : Bool := ! isSpace c && c != ']' && c != '}' && c != ','

lemma not_space_of_startsValue {c : Char} (h : startsValue c = true) : isSpace c = false := by
  simp only [startsValue, Bool.and_eq_true, Bool.not_eq_true'] at h
  exact h.1.1.1

lemma ne_of_startsValue {c d : Char} (h : startsValue c = true) (hd : startsValue d = false) :
    c ≠ d := by
  rintro rfl
  rw [h] at hd
  cases hd

lemma ne_of_isDigit {c d : Char} (h : c.isDigit = true) (hd : d.isDigit = false) : c ≠ d := by
  rintro rfl
  rw [h] at hd
  cases hd

lemma startsValue_of_isDigit {c : Char} (h : c.isDigit = true) : startsValue c = true := by
  have hne : ∀ d : Char, d.isDigit = false → c ≠ d := fun d => ne_of_isDigit h
  simp [startsValue, isSpace, hne]

lemma Numeral.exists_text_eq (n : Numeral) :
    ∃ c body, n.text = c :: body ∧ (c = '-' ∨ c.isDigit = true) := by
  unfold text
  by_cases hn : n.negative = true
  · rw [if_pos hn]
    exact ⟨'-', _, rfl, .inl rfl⟩
  · obtain ⟨c, ds, hds⟩ := List.exists_cons_of_ne_nil n.isDigits_whole.nonempty
    rw [if_neg hn, unsignedText, hds]
    exact ⟨c, _, rfl, .inr (n.isDigits_whole.digits c (by rw [hds]; exact List.mem_cons_self))⟩

/-- The first token of a document begins as a value does, and like `null` only if it is that. -/
lemma Document.exists_tokens_eq (d : Document) :
    ∃ c body toks, d.tokens = (c :: body) :: toks ∧ startsValue c = true ∧
      (c = 'n' → d = .null) := by
  cases d with
  | null => exact ⟨'n', "ull".toList, [], rfl, rfl, fun _ => rfl⟩
  | bool b =>
    cases b with
    | false => exact ⟨'f', "alse".toList, [], rfl, rfl, fun h => absurd h (by decide)⟩
    | true => exact ⟨'t', "rue".toList, [], rfl, rfl, fun h => absurd h (by decide)⟩
  | number n =>
    obtain ⟨c, body, htext, hc⟩ := n.exists_text_eq
    refine ⟨c, body, [], by rw [tokens, htext], ?_, ?_⟩
    · rcases hc with rfl | hc
      · rfl
      · exact startsValue_of_isDigit hc
    · rintro rfl
      rcases hc with hc | hc
      · exact absurd hc (by decide)
      · exact absurd hc (by decide)
  | string b => exact ⟨'"', _, [], rfl, rfl, fun h => absurd h (by decide)⟩
  | array ds => exact ⟨'[', [], _, rfl, rfl, fun h => absurd h (by decide)⟩
  | object ms => exact ⟨'{', [], _, rfl, rfl, fun h => absurd h (by decide)⟩

/-- A reader that goes on with the next token sees the first character of the document. -/
lemma Document.exists_skipSpace_eq {d : Document} {toks : List Text} {t : Text}
    (h : Spaced (d.tokens ++ toks) t) :
    ∃ c body, skipSpace t = c :: body ∧ startsValue c = true ∧ (c = 'n' → d = .null) ∧
      Spaced (d.tokens ++ toks) (c :: body) := by
  obtain ⟨c, body, rest, htokens, hstart, hnull⟩ := d.exists_tokens_eq
  rw [htokens] at h ⊢
  obtain ⟨t', hskip, ht'⟩ := skipSpace_of_spaced h (not_space_of_startsValue hstart)
  exact ⟨c, body ++ t', hskip, hstart, hnull, ht'.tight (c :: body)⟩

/-! ### Punctuation -/

lemma colon_of_spaced {toks : List Text} {t : Text} (h : Spaced ([':'] :: toks) t) :
    ∃ t', colon t = .ok t' ∧ Spaced toks t' := by
  obtain ⟨t', hskip, ht'⟩ := skipSpace_of_spaced h rfl
  refine ⟨t', ?_, ht'⟩
  rw [colon, hskip]
  rfl

lemma nextElement_end {toks : List Text} {t : Text} (first : Bool)
    (h : Spaced ([']'] :: toks) t) :
    ∃ t', nextElement first t = .ok (false, t') ∧ Spaced toks t' := by
  obtain ⟨t', hskip, ht'⟩ := skipSpace_of_spaced h rfl
  refine ⟨t', ?_, ht'⟩
  rw [nextElement, hskip]
  rfl

/-- An element is told apart from the end of the array by its first character. -/
lemma nextElement_document {d : Document} {toks : List Text} {t : Text} {first : Bool}
    (h : Spaced (separator first ++ (d.tokens ++ toks)) t) :
    ∃ t', nextElement first t = .ok (true, t') ∧ Spaced (d.tokens ++ toks) t' := by
  cases first with
  | true =>
    obtain ⟨c, body, hskip, hstart, -, hd⟩ := d.exists_skipSpace_eq h
    have hend : c ≠ ']' := ne_of_startsValue hstart rfl
    exact ⟨c :: body, by simp [nextElement, hskip], hd⟩
  | false =>
    obtain ⟨t₁, hcomma, ht₁⟩ := skipSpace_of_spaced h rfl
    obtain ⟨c, body, hskip, hstart, -, hd⟩ := d.exists_skipSpace_eq ht₁
    have hend : c ≠ ']' := ne_of_startsValue hstart rfl
    exact ⟨c :: body, by simp [nextElement, hcomma, hskip, hend], hd⟩

lemma nextKey_end {toks : List Text} {t : Text} (first : Bool) (h : Spaced (['}'] :: toks) t) :
    ∃ t', nextKey first t = .ok (false, t') ∧ Spaced toks t' := by
  obtain ⟨t', hskip, ht'⟩ := skipSpace_of_spaced h rfl
  refine ⟨t', ?_, ht'⟩
  rw [nextKey, hskip]
  rfl

lemma nextKey_quoted {b : StringBody} {toks : List Text} {t : Text} {first : Bool}
    (h : Spaced (separator first ++ (b.quoted :: toks)) t) :
    ∃ t', nextKey first t = .ok (true, b.text ++ '"' :: t') ∧ Spaced toks t' := by
  cases first with
  | true =>
    obtain ⟨t', hskip, ht'⟩ := skipSpace_of_spaced h rfl
    exact ⟨t', by simp [nextKey, hskip], ht'⟩
  | false =>
    obtain ⟨t₁, hcomma, ht₁⟩ := skipSpace_of_spaced h rfl
    obtain ⟨t', hskip, ht'⟩ := skipSpace_of_spaced ht₁ rfl
    exact ⟨t', by simp [nextKey, hcomma, hskip], ht'⟩

/-- The string is a way to write the text. -/
def StringBody.Spells (b : StringBody) (s : String) : Prop := Json.Spells b.text s.toList

lemma StringBody.spells_ofString (s : String) : (ofString s).Spells s :=
  spells_escapeText s.toList

/-- A member of an object, up to its value. -/
lemma exists_key_of_spaced {b : StringBody} {key : String} (hb : b.Spells key) {toks : List Text}
    {t : Text} {first : Bool} (h : Spaced (separator first ++ (b.quoted :: [':'] :: toks)) t) :
    ∃ t₁ t₂ t₃, nextKey first t = .ok (true, t₁) ∧ stringBody [] t₁ = .ok (key.toList, t₂) ∧
      colon t₂ = .ok t₃ ∧ Spaced toks t₃ := by
  obtain ⟨t₂, hkey, ht₂⟩ := nextKey_quoted h
  obtain ⟨t₃, hcolon, ht₃⟩ := colon_of_spaced ht₂
  exact ⟨_, t₂, t₃, hkey, stringBody_of_spells hb [] t₂, hcolon, ht₃⟩

end AmbientDecls.Json
