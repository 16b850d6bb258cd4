import AmbientDecls.Text.Blank
import AmbientDecls.Proofs.Text.Lines
import Mathlib.Data.List.DropRight

/-!
# Trimming

A text is blank characters, its trimmed text, and blank characters again. The trimmed text is the
only one with no blank character at its ends for which this holds, so what stands around it does
not matter (`trim_surrounded`).
-/

namespace AmbientDecls.Text

def IsBlankText (t : Text) : Prop := ∀ c ∈ t, isBlank c = true

structure IsTrimmed (t : Text) : Prop where
  head : ∀ c ∈ t.head?, isBlank c = false
  last : ∀ c ∈ t.getLast?, isBlank c = false

lemma trimEnd_concat_of_blank {c : Char} (h : isBlank c = true) (t : Text) :
    trimEnd (t ++ [c]) = trimEnd t := by
  simp [trimEnd, h]

lemma trimEnd_concat_of_not_blank {c : Char} (h : isBlank c = false) (t : Text) :
    trimEnd (t ++ [c]) = t ++ [c] := by
  induction t with
  | nil => simp [trimEnd, h]
  | cons d t ih =>
    simp only [trimEnd, List.cons_append, List.foldr_cons] at ih ⊢
    rw [ih]
    simp

lemma trimEnd_eq_rdropWhile (t : Text) : t.trimEnd = t.rdropWhile isBlank := by
  induction t using List.reverseRecOn with
  | nil => rfl
  | append_singleton t c ih =>
    cases h : isBlank c with
    | true => rw [trimEnd_concat_of_blank h, List.rdropWhile_concat_pos _ _ _ h, ih]
    | false => rw [trimEnd_concat_of_not_blank h, List.rdropWhile_concat_neg _ _ _ (by simp [h])]

lemma trimEnd_append_blank {b : Text} (hb : IsBlankText b) (t : Text) :
    trimEnd (t ++ b) = trimEnd t := by
  induction b using List.reverseRecOn with
  | nil => rw [List.append_nil]
  | append_singleton b c ih =>
    rw [← List.append_assoc, trimEnd_concat_of_blank (hb c (by simp)),
      ih (fun d hd => hb d (List.mem_append_left _ hd))]

lemma trimEnd_eq_self {t : Text} (h : ∀ c ∈ t.getLast?, isBlank c = false) : trimEnd t = t := by
  rw [trimEnd_eq_rdropWhile, List.rdropWhile_eq_self_iff]
  intro ht
  rw [h _ (List.getLast_mem_getLast? ht)]
  exact Bool.false_ne_true

lemma trimStart_blank_append {a : Text} (ha : IsBlankText a) (t : Text) :
    trimStart (a ++ t) = trimStart t :=
  List.dropWhile_append_of_pos ha

lemma trimStart_eq_self {t : Text} (h : ∀ c ∈ t.head?, isBlank c = false) : trimStart t = t := by
  cases t with
  | nil => rfl
  | cons c t => rw [trimStart, List.dropWhile_cons_of_neg (by simp [h c rfl])]

/-- What is blank around a trimmed text is what trimming removes. -/
theorem trim_surrounded {a t b : Text} (ha : IsBlankText a) (ht : IsTrimmed t)
    (hb : IsBlankText b) : trim (a ++ t ++ b) = t := by
  rw [trim, List.append_assoc, trimStart_blank_append ha]
  by_cases hn : t = []
  · subst t
    rw [List.nil_append, trimStart, List.dropWhile_eq_nil_iff.mpr hb]
    rfl
  · have hhead : ∀ c ∈ (t ++ b).head?, isBlank c = false := by
      rw [List.head?_append_of_ne_nil _ hn]
      exact ht.head
    rw [trimStart_eq_self hhead, trimEnd_append_blank hb, trimEnd_eq_self ht.last]

lemma exists_blank_append_trimStart (t : Text) :
    ∃ a, IsBlankText a ∧ t = a ++ t.trimStart :=
  ⟨t.takeWhile isBlank, fun _ hc => List.mem_takeWhile_imp hc, List.takeWhile_append_dropWhile.symm⟩

lemma exists_trimEnd_append_blank (t : Text) : ∃ b, IsBlankText b ∧ t = t.trimEnd ++ b := by
  refine ⟨t.rtakeWhile isBlank, fun _ hc => List.mem_rtakeWhile_imp hc, ?_⟩
  rw [trimEnd_eq_rdropWhile, List.rdropWhile_append_rtakeWhile]

lemma isTrimmed_trim (t : Text) : IsTrimmed t.trim where
  head := by
    intro c hc
    obtain ⟨b, -, hb⟩ := exists_trimEnd_append_blank t.trimStart
    have hs : c ∈ t.trimStart.head? := by
      rw [hb]
      exact List.mem_head?_append_of_mem_head? hc
    have hn := List.head?_dropWhile_not isBlank t
    rw [trimStart] at hs
    rw [Option.mem_def.mp hs] at hn
    exact hn
  last := by
    intro c hc
    rw [trim, trimEnd_eq_rdropWhile] at hc
    obtain ⟨hne, rfl⟩ := List.mem_getLast?_eq_getLast hc
    simpa using List.rdropWhile_last_not isBlank t.trimStart hne

/-- A text is its trimmed text with blank characters on both sides. -/
theorem exists_surrounding (t : Text) :
    ∃ a b, IsBlankText a ∧ IsBlankText b ∧ t = a ++ t.trim ++ b := by
  obtain ⟨a, ha, hta⟩ := exists_blank_append_trimStart t
  obtain ⟨b, hb, htb⟩ := exists_trimEnd_append_blank t.trimStart
  refine ⟨a, b, ha, hb, ?_⟩
  rw [List.append_assoc, trim, ← htb, ← hta]

lemma trim_blank_append {a : Text} (ha : IsBlankText a) (t : Text) : trim (a ++ t) = t.trim := by
  rw [trim, trimStart_blank_append ha, trim]

lemma trim_append_blank (t : Text) {b : Text} (hb : IsBlankText b) : trim (t ++ b) = t.trim := by
  obtain ⟨c, d, hc, hd, ht⟩ := exists_surrounding t
  have hdb : IsBlankText (d ++ b) := List.forall_mem_append.mpr ⟨hd, hb⟩
  have h := trim_surrounded hc (isTrimmed_trim t) hdb
  rwa [← List.append_assoc, ← ht] at h

lemma IsTrimmed.trim_eq {t : Text} (h : IsTrimmed t) : t.trim = t := by
  have := trim_surrounded (a := []) (b := []) (by simp [IsBlankText]) h (by simp [IsBlankText])
  rwa [List.nil_append, List.append_nil] at this

lemma trim_eq_nil_iff (t : Text) : t.trim = [] ↔ IsBlankText t := by
  constructor
  · intro h
    obtain ⟨a, b, ha, hb, ht⟩ := exists_surrounding t
    rw [ht, h, List.append_nil]
    exact List.forall_mem_append.mpr ⟨ha, hb⟩
  · intro h
    rw [← List.append_nil t, trim_blank_append h]
    rfl

lemma trimStart_append_cons {c : Char} (hc : isBlank c = false) (s t : Text) :
    trimStart (s ++ c :: t) = s.trimStart ++ c :: t := by
  rw [trimStart, List.dropWhile_append]
  split
  · next h =>
    rw [List.isEmpty_iff] at h
    rw [trimStart, h, List.dropWhile_cons_of_neg (by simp [hc])]
    rfl
  · rfl

lemma trim_concat {c : Char} (hc : isBlank c = false) (t : Text) :
    trim (t ++ [c]) = t.trimStart ++ [c] := by
  rw [trim, trimStart_append_cons hc, trimEnd_concat_of_not_blank hc]

lemma trim_cons {c : Char} (hc : isBlank c = false) (t : Text) : trim (c :: t) = c :: t.trimEnd := by
  have hs : trimStart (c :: t) = c :: t := List.dropWhile_cons_of_neg (by simp [hc])
  rw [trim, hs]
  simp [trimEnd, hc]

lemma trim_isInfix (t : Text) : t.trim <:+: t := by
  obtain ⟨a, b, -, -, ht⟩ := exists_surrounding t
  exact ⟨a, b, ht.symm⟩

lemma isBlankText_replicate {c : Char} (hc : isBlank c = true) (n : Nat) :
    IsBlankText (List.replicate n c) := by
  intro d hd
  rw [List.eq_of_mem_replicate hd]
  exact hc

@[simp] lemma trim_dropReturn (t : Text) : t.dropReturn.trim = t.trim := by
  by_cases h : t.getLast? = some '\r'
  · obtain ⟨s, rfl⟩ := List.getLast?_eq_some_iff.mp h
    rw [dropReturn_concat, trim_append_blank s]
    intro c hc
    rw [List.mem_singleton.mp hc]
    rfl
  · rw [dropReturn_of_getLast? h]

end AmbientDecls.Text
