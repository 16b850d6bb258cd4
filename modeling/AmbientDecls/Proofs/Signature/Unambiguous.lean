import AmbientDecls.Proofs.Signature.Folding
import AmbientDecls.Proofs.Text.Lines
import AmbientDecls.Text.Alphanumeric
import Mathlib.Data.List.Forall2

/-!
# Parameter lists are unambiguous

The text of a parameter list tells the documented arguments it was printed from, up to aliases of
their types, if names and type tokens are identifiers (`arguments_of_textOfParams`). A name ends
where its marker begins, and a type at a comma, at a closing bracket or at the end; a bracket in the
place of a type is one that an argument has opened for those that follow it.
-/

namespace AmbientDecls

open TypeExpr

def isIdentifierChar (c : Char) : Bool := Text.isAlphanumeric c || c == '_' || c == '$'

structure IsIdentifier (t : Text) : Prop where
  nonempty : t ≠ []
  all_chars : t.all isIdentifierChar = true

/-- The name is an identifier, and so is the type token unless it is absent or empty. -/
structure Argument.IsPlain (a : Argument) : Prop where
  name : IsIdentifier a.name.toList
  type : ∀ t ∈ a.type, t = "" ∨ IsIdentifier t.toList

instance (t : Text) : Decidable (IsIdentifier t) :=
  decidable_of_iff (t ≠ [] ∧ t.all isIdentifierChar = true)
    ⟨fun h => ⟨h.1, h.2⟩, fun h => ⟨h.nonempty, h.all_chars⟩⟩

instance (a : Argument) : Decidable a.IsPlain :=
  decidable_of_iff (IsIdentifier a.name.toList ∧ ∀ t ∈ a.type, t = "" ∨ IsIdentifier t.toList)
    ⟨fun h => ⟨h.1, h.2⟩, fun h => ⟨h.name, h.type⟩⟩

lemma IsIdentifier.chars {t : Text} (h : IsIdentifier t) : ∀ c ∈ t, isIdentifierChar c = true :=
  List.all_eq_true.mp h.all_chars

/-- The arguments differ at most by an alias of the type and by what is said about them. -/
structure Argument.Similar (a b : Argument) : Prop where
  name : a.name = b.name
  isOptional : a.isOptional = b.isOptional
  type : mapType a.type .argument = mapType b.type .argument

/-- The characters of types that are no callbacks and no records. -/
def isTypeChar (c : Char) : Bool := isIdentifierChar c || c ∈ ['[', ']', '<', '>']

/-- The declared types that stand for tokens which are spelled otherwise. -/
def aliasTypes : List String :=
  ["any", "any[]", "Promise<any>", "number", "string", "boolean", "IPoint", "IRange"]

lemma mapType_mem_aliasTypes_or_eq (token : Option String) (position : Position) :
    mapType token position ∈ aliasTypes ∨
      token.getD "" ≠ "" ∧ mapType token position = token.getD "" := by
  by_cases hne : token.getD "" = ""
  · have hany : mapType token position = "any" := by simp only [mapType, hne]
    rw [hany]
    exact .inl (by decide)
  · unfold mapType
    split
    all_goals first
      | exact .inr ⟨hne, rfl⟩
      | exact .inl (by decide)

lemma Argument.IsPlain.chars_mapType {a : Argument} (h : a.IsPlain) :
    (mapType a.type .argument).toList ≠ [] ∧
      ∀ c ∈ (mapType a.type .argument).toList, isTypeChar c = true := by
  rcases mapType_mem_aliasTypes_or_eq a.type .argument with halias | ⟨hne, heq⟩
  · have haliases : ∀ s ∈ aliasTypes, s.toList ≠ [] ∧ s.toList.all isTypeChar = true := by decide
    obtain ⟨hne, hall⟩ := haliases _ halias
    exact ⟨hne, List.all_eq_true.mp hall⟩
  · rw [heq]
    cases ht : a.type with
    | none => exact absurd (by rw [ht]; rfl) hne
    | some t =>
      rcases h.type t ht with rfl | hid
      · exact absurd (by rw [ht]; rfl) hne
      · refine ⟨hid.nonempty, fun c hc => ?_⟩
        rw [isTypeChar, hid.chars c hc, Bool.true_or]

lemma label_inj {a b : Argument} (ha : IsIdentifier a.name.toList)
    (hb : IsIdentifier b.name.toList) {x y : Text} (h : a.label ++ x = b.label ++ y) :
    a.name = b.name ∧ a.isOptional = b.isOptional ∧ x = y := by
  have hlabel : ∀ (d : Argument) (z : Text), d.label ++ z =
      d.name.toList ++ ((if d.isOptional then ['?'] else []) ++ ": ".toList ++ z) := by
    intro d z
    simp only [Argument.label, List.append_assoc]
  have hmarker : ∀ (d : Argument) (z : Text),
      ∀ c ∈ ((if d.isOptional then ['?'] else []) ++ ": ".toList ++ z).head?,
        ¬isIdentifierChar c = true := by
    intro d z c hc
    cases hd : d.isOptional with
    | true =>
      rw [hd] at hc
      rw [← Option.some.inj hc]
      decide
    | false =>
      rw [hd] at hc
      rw [← Option.some.inj hc]
      decide
  rw [hlabel, hlabel] at h
  obtain ⟨hname, hrest⟩ := Text.append_inj_of_head ha.chars hb.chars (hmarker a x) (hmarker b y) h
  refine ⟨String.toList_inj.mp hname, ?_⟩
  generalize a.isOptional = m at hrest
  generalize b.isOptional = n at hrest
  cases m with
  | true =>
    cases n with
    | true => exact ⟨rfl, List.append_cancel_left hrest⟩
    | false => exact absurd (List.cons.inj hrest).1 (by decide)
  | false =>
    cases n with
    | true => exact absurd (List.cons.inj hrest).1 (by decide)
    | false => exact ⟨rfl, List.append_cancel_left hrest⟩

/-! ### One list at a time -/

/-- What may follow a parameter list. -/
def EndsParams (t : Text) : Prop := ∀ c ∈ t.head?, c = ')' ∨ c = '}'

lemma Argument.endsParams_closing {a : Argument} {b : Brackets} (h : a.brackets = some b) (t : Text) :
    EndsParams (b.closing ++ t) := by
  intro c hc
  rcases a.brackets_eq h with ⟨-, rfl⟩ | ⟨-, rfl⟩
  · exact .inl (Option.some.inj hc).symm
  · exact .inr (Option.some.inj hc).symm

/-- A bracket is no type. -/
lemma Argument.opening_ne_mapType {a a' : Argument} {b : Brackets} (h : a.brackets = some b)
    (ha' : a'.IsPlain) (x y : Text) :
    b.opening ++ x ≠ (mapType a'.type .argument).toList ++ y := by
  obtain ⟨hne, hchars⟩ := ha'.chars_mapType
  obtain ⟨c, rest, hc⟩ := List.exists_cons_of_ne_nil hne
  rw [hc] at hchars ⊢
  have htype := hchars c List.mem_cons_self
  intro heq
  rcases a.brackets_eq h with ⟨-, rfl⟩ | ⟨-, rfl⟩
  · rw [← (List.cons.inj heq).1] at htype
    exact absurd htype (by decide)
  · rw [← (List.cons.inj heq).1] at htype
    exact absurd htype (by decide)

/-- The same bracket is opened for the same type. -/
lemma Argument.opening_inj {a a' : Argument} {b b' : Brackets} (h : a.brackets = some b)
    (h' : a'.brackets = some b') {x y : Text} (heq : b.opening ++ x = b'.opening ++ y) :
    a.type = a'.type ∧ b = b' ∧ x = y := by
  rcases a.brackets_eq h with ⟨ht, rfl⟩ | ⟨ht, rfl⟩
  · rcases a'.brackets_eq h' with ⟨ht', rfl⟩ | ⟨ht', rfl⟩
    · exact ⟨ht.trans ht'.symm, rfl, List.append_cancel_left heq⟩
    · exact absurd (List.cons.inj heq).1 (by decide)
  · rcases a'.brackets_eq h' with ⟨ht', rfl⟩ | ⟨ht', rfl⟩
    · exact absurd (List.cons.inj heq).1 (by decide)
    · exact ⟨ht.trans ht'.symm, rfl, List.append_cancel_left heq⟩

/-- What is written behind an argument that takes nothing. -/
def textBehind (as : List Argument) (k : Text) : Text :=
  (if as = [] then [] else ", ".toList ++ textOfParams (groupArguments as)) ++ k

lemma not_isTypeChar_head_textBehind (as : List Argument) {k : Text} (hk : EndsParams k) :
    ∀ c ∈ (textBehind as k).head?, ¬isTypeChar c = true := by
  intro c hc
  unfold textBehind at hc
  split at hc
  · rcases hk c hc with rfl | rfl
    · decide
    · decide
  · rw [← Option.some.inj hc]
    decide

lemma textBehind_inj {as bs : List Argument} {k k' : Text} (hk : EndsParams k) (hk' : EndsParams k')
    (h : textBehind as k = textBehind bs k') :
    textOfParams (groupArguments as) ++ k = textOfParams (groupArguments bs) ++ k' := by
  have hcomma : ∀ {t : Text}, EndsParams t → ∀ rest, t ≠ ',' :: rest := by
    rintro t ht rest rfl
    exact absurd (ht ',' rfl) (by decide)
  unfold textBehind at h
  by_cases ha : as = []
  · by_cases hb : bs = []
    · rw [if_pos ha, if_pos hb] at h
      rw [ha, hb]
      exact h
    · rw [if_pos ha, if_neg hb] at h
      exact absurd h (hcomma hk _)
  · by_cases hb : bs = []
    · rw [if_neg ha, if_pos hb] at h
      exact absurd h.symm (hcomma hk' _)
    · rw [if_neg ha, if_neg hb, List.append_assoc, List.append_assoc] at h
      exact List.append_cancel_left h

/-- An argument takes those behind it, or it stands beside them. -/
lemma textOfParams_cons_cases (a : Argument) (as : List Argument) (k : Text) :
    (∃ b, a.brackets = some b ∧ textOfParams (groupArguments (a :: as)) ++ k =
      a.label ++ (b.opening ++ (textOfParams (groupArguments as) ++ (b.closing ++ k)))) ∨
    textOfParams (groupArguments (a :: as)) ++ k =
      a.label ++ ((mapType a.type .argument).toList ++ textBehind as k) := by
  by_cases hnil : as = []
  · right
    rw [textOfParams_cons_of_plain (.inr hnil), textBehind, List.append_assoc, List.append_assoc]
  · cases hb : a.brackets with
    | none =>
      right
      rw [textOfParams_cons_of_plain (.inl hb), textBehind, List.append_assoc, List.append_assoc]
    | some b =>
      left
      refine ⟨b, rfl, ?_⟩
      rw [textOfParams_cons_of_brackets hb hnil]
      simp only [List.append_assoc]

/-- A list with arguments does not read as the end of one. -/
lemma not_endsParams_cons {a : Argument} (ha : a.IsPlain) (as : List Argument) (k : Text) :
    ¬EndsParams (textOfParams (groupArguments (a :: as)) ++ k) := by
  have hlabel : ∃ x, textOfParams (groupArguments (a :: as)) ++ k = a.label ++ x := by
    rcases textOfParams_cons_cases a as k with ⟨b, -, h⟩ | h
    · exact ⟨_, h⟩
    · exact ⟨_, h⟩
  obtain ⟨x, hx⟩ := hlabel
  obtain ⟨c, rest, hc⟩ := List.exists_cons_of_ne_nil ha.name.nonempty
  have hchar : isIdentifierChar c = true := ha.name.chars c (by rw [hc]; exact List.mem_cons_self)
  rw [hx, Argument.label, hc]
  intro hend
  rcases hend c rfl with rfl | rfl
  · exact absurd hchar (by decide)
  · exact absurd hchar (by decide)

/-- Texts of parameter lists that agree up to the end of a list are of similar arguments. The
induction is on the list, and the end grows by a closing bracket where an argument takes the rest. -/
theorem similar_of_append_eq {as bs : List Argument} (ha : ∀ a ∈ as, a.IsPlain)
    (hb : ∀ b ∈ bs, b.IsPlain) {k k' : Text} (hk : EndsParams k) (hk' : EndsParams k')
    (h : textOfParams (groupArguments as) ++ k = textOfParams (groupArguments bs) ++ k') :
    List.Forall₂ Argument.Similar as bs ∧ k = k' := by
  induction as generalizing bs k k' with
  | nil =>
    cases bs with
    | nil => exact ⟨.nil, h⟩
    | cons b bs =>
      rw [List.forall_mem_cons] at hb
      refine absurd ?_ (not_endsParams_cons hb.1 bs k')
      rw [← h]
      exact hk
  | cons a as ih =>
    rw [List.forall_mem_cons] at ha
    cases bs with
    | nil =>
      refine absurd ?_ (not_endsParams_cons ha.1 as k)
      rw [h]
      exact hk'
    | cons b bs =>
      rw [List.forall_mem_cons] at hb
      rcases textOfParams_cons_cases a as k with ⟨c, hc, hta⟩ | hta
      · rcases textOfParams_cons_cases b bs k' with ⟨d, hd, htb⟩ | htb
        · rw [hta, htb] at h
          obtain ⟨hname, hoptional, h⟩ := label_inj ha.1.name hb.1.name h
          obtain ⟨htype, rfl, h⟩ := Argument.opening_inj hc hd h
          obtain ⟨hrest, hclosing⟩ :=
            ih ha.2 hb.2 (Argument.endsParams_closing hc k) (Argument.endsParams_closing hc k') h
          exact ⟨.cons ⟨hname, hoptional, by rw [htype]⟩ hrest, List.append_cancel_left hclosing⟩
        · rw [hta, htb] at h
          obtain ⟨-, -, h⟩ := label_inj ha.1.name hb.1.name h
          exact absurd h (Argument.opening_ne_mapType hc hb.1 _ _)
      · rcases textOfParams_cons_cases b bs k' with ⟨d, hd, htb⟩ | htb
        · rw [hta, htb] at h
          obtain ⟨-, -, h⟩ := label_inj ha.1.name hb.1.name h
          exact absurd h.symm (Argument.opening_ne_mapType hd ha.1 _ _)
        · rw [hta, htb] at h
          obtain ⟨hname, hoptional, h⟩ := label_inj ha.1.name hb.1.name h
          obtain ⟨htype, h⟩ := Text.append_inj_of_head ha.1.chars_mapType.2 hb.1.chars_mapType.2
            (not_isTypeChar_head_textBehind as hk) (not_isTypeChar_head_textBehind bs hk') h
          obtain ⟨hrest, hend⟩ := ih ha.2 hb.2 hk hk' (textBehind_inj hk hk' h)
          exact ⟨.cons ⟨hname, hoptional, String.toList_inj.mp htype⟩ hrest, hend⟩

/-- Two lists of arguments with the same text have the same length, and argument for argument the
same name, the same marker and the same type. -/
theorem arguments_of_textOfParams (as bs : List Argument) (ha : ∀ a ∈ as, a.IsPlain)
    (hb : ∀ b ∈ bs, b.IsPlain)
    (h : textOfParams (groupArguments as) = textOfParams (groupArguments bs)) :
    as.length = bs.length ∧ ∀ i : Nat, ∀ a ∈ as[i]?, ∀ b ∈ bs[i]?,
      a.name = b.name ∧ a.isOptional = b.isOptional ∧
        mapType a.type .argument = mapType b.type .argument := by
  have hend : EndsParams [] := fun _ hc => nomatch hc
  obtain ⟨hsimilar, -⟩ := similar_of_append_eq ha hb hend hend (congrArg (· ++ []) h)
  obtain ⟨hlength, hget⟩ := List.forall₂_iff_get.mp hsimilar
  refine ⟨hlength, fun i a hai b hbi => ?_⟩
  obtain ⟨hi, rfl⟩ := List.getElem?_eq_some_iff.mp hai
  obtain ⟨hi', rfl⟩ := List.getElem?_eq_some_iff.mp hbi
  have hsim := hget i hi hi'
  exact ⟨hsim.name, hsim.isOptional, hsim.type⟩

/-- A record in a callback, with types that are spelled in two ways. -/
theorem arguments_of_textOfParams_nested :
    let as : List Argument :=
      [⟨"cb", some "Function", true, none⟩, ⟨"e", some "Object", false, none⟩,
        ⟨"n", some "Number", true, none⟩, ⟨"f", some "Function", false, none⟩, ⟨"x", none, false, none⟩]
    let bs : List Argument :=
      [⟨"cb", some "Function", true, some "called"⟩, ⟨"e", some "Object", false, none⟩,
        ⟨"n", some "number", true, none⟩, ⟨"f", some "Function", false, none⟩,
        ⟨"x", some "any", false, none⟩]
    (∀ a ∈ as, a.IsPlain) ∧ (∀ b ∈ bs, b.IsPlain) ∧
      textOfParams (groupArguments as) = textOfParams (groupArguments bs) ∧
      as.length = bs.length ∧ ∀ i : Nat, ∀ a ∈ as[i]?, ∀ b ∈ bs[i]?,
        a.name = b.name ∧ a.isOptional = b.isOptional ∧
          mapType a.type .argument = mapType b.type .argument := by
  intro as bs
  have ha : ∀ a ∈ as, a.IsPlain := by decide
  have hb : ∀ b ∈ bs, b.IsPlain := by decide
  have h : textOfParams (groupArguments as) = textOfParams (groupArguments bs) := rfl
  exact ⟨ha, hb, h, arguments_of_textOfParams as bs ha hb h⟩

end AmbientDecls
