import AmbientDecls.Proofs.Text.Lines

/-!
# Ends of lines

A carriage return stands before a line feed where a line ends in it. What is put before a text,
short of its last character, does not change how its lines end (`endsLine_append_cons`), and written
lines hold the two characters next to each other only where one of them ends a line that way
(`return_infix_unlines_iff`).
-/

namespace AmbientDecls.Text

/-- Some line of the text has this end. -/
def EndsLine (ending t : Text) : Prop := ∃ l ∈ t.lines, ending <:+ l

instance (ending t : Text) : Decidable (EndsLine ending t) :=
  inferInstanceAs (Decidable (∃ l ∈ t.lines, ending <:+ l))

lemma EndsLine.of_suffix {ending longer t : Text} (h : EndsLine longer t) (hs : ending <:+ longer) :
    EndsLine ending t := by
  obtain ⟨l, hl, hsuffix⟩ := h
  exact ⟨l, hl, hs.trans hsuffix⟩

lemma endsLine_of_notMem {t : Text} (h : '\n' ∉ t) (ending : Text) :
    EndsLine ending t ↔ ending <:+ t := by
  unfold EndsLine
  rw [lines_of_notMem h]
  simp

lemma endsLine_append_newline {s : Text} (hs : '\n' ∉ s) (ending t : Text) :
    EndsLine ending (s ++ '\n' :: t) ↔ ending <:+ s ∨ EndsLine ending t := by
  unfold EndsLine
  rw [lines_append_newline, lines_of_notMem hs]
  simp

/-- An end that lacks a character stands behind it. -/
lemma suffix_append_cons_iff {ending s t : Text} {c : Char} (hc : c ∉ ending) :
    ending <:+ s ++ c :: t ↔ ending <:+ t := by
  constructor
  · intro h
    rw [← List.reverse_prefix] at h ⊢
    have hsplit : (s ++ c :: t).reverse = t.reverse ++ c :: s.reverse := by simp
    rw [hsplit] at h
    apply prefix_of_prefix_append_cons _ h
    simpa using hc
  · intro h
    have hsuffix : t <:+ s ++ c :: t := ⟨s ++ [c], by simp⟩
    exact h.trans hsuffix

theorem endsLine_append_cons {ending s : Text} {c : Char} (hs : '\n' ∉ s) (hn : c ≠ '\n')
    (hc : c ∉ ending) (t : Text) : EndsLine ending (s ++ c :: t) ↔ EndsLine ending t := by
  have hnew : ∀ l : Text, '\n' ∉ l → '\n' ∉ s ++ c :: l := by
    intro l hl
    simp [hs, hl, hn.symm]
  induction t using lines_induction with
  | last l hl =>
    rw [endsLine_of_notMem (hnew l hl), endsLine_of_notMem hl, suffix_append_cons_iff hc]
  | line l t hl ih =>
    have hsplit : s ++ c :: (l ++ '\n' :: t) = (s ++ c :: l) ++ '\n' :: t := by simp
    rw [hsplit, endsLine_append_newline (hnew l hl), endsLine_append_newline hl,
      suffix_append_cons_iff hc]

/-! ### Carriage returns -/

lemma return_infix_append_newline {s : Text} (hs : '\n' ∉ s) (t : Text) :
    ['\r', '\n'] <:+: s ++ '\n' :: t ↔ ['\r'] <:+ s ∨ ['\r', '\n'] <:+: t := by
  have hleft : ¬['\r', '\n'] <:+: s := fun h => hs (h.mem (by simp))
  have hright : ['\r', '\n'] <:+: '\n' :: t ↔ ['\r', '\n'] <:+: t := by
    rw [List.infix_cons_iff, List.cons_prefix_cons]
    simp
  rw [pair_infix_append, hright, List.singleton_suffix_iff_getLast?_eq_some]
  simp only [hleft, List.head?_cons, and_true, false_or]
  tauto

lemma endsLine_return_iff (t : Text) : EndsLine ['\r'] t ↔ ['\r', '\n'] <:+: t ++ ['\n'] := by
  induction t using lines_induction with
  | last l hl =>
    rw [endsLine_of_notMem hl, return_infix_append_newline hl]
    simp
  | line l t hl ih =>
    have hsplit : l ++ '\n' :: t ++ ['\n'] = l ++ '\n' :: (t ++ ['\n']) := by simp
    rw [hsplit, endsLine_append_newline hl, return_infix_append_newline hl, ih]

/-- Written lines hold a carriage return before a line feed where one of them ends a line in it. -/
theorem return_infix_unlines_iff (ls : List Text) :
    ['\r', '\n'] <:+: unlines ls ↔ ∃ l ∈ ls, EndsLine ['\r'] l := by
  induction ls with
  | nil => simp
  | cons l ls ih =>
    have hsplit : unlines (l :: ls) = (l ++ ['\n']) ++ unlines ls := by simp
    rw [hsplit, pair_infix_append, ih, ← endsLine_return_iff]
    simp

lemma IsRecord.not_endsLine_return {t : Text} (h : IsRecord t) : ¬EndsLine ['\r'] t := by
  rw [endsLine_of_notMem h.newline, List.singleton_suffix_iff_getLast?_eq_some]
  exact h.last

/-- A line ends in a carriage return after one is dropped if it ended in two. -/
lemma endsLine_return_dropReturn {l : Text} (hl : '\n' ∉ l) :
    EndsLine ['\r'] l.dropReturn ↔ ['\r', '\r'] <:+ l := by
  have hn : '\n' ∉ l.dropReturn := fun h => hl ((dropReturn_isPrefix l).mem h)
  rw [endsLine_of_notMem hn]
  by_cases h : l.getLast? = some '\r'
  · obtain ⟨s, rfl⟩ := List.getLast?_eq_some_iff.mp h
    have hpair : ['\r', '\r'] = ['\r'] ++ ['\r'] := rfl
    rw [dropReturn_concat, hpair, List.suffix_append_inj_of_length_eq]
    · simp
    · rfl
  · rw [dropReturn_of_getLast? h, List.singleton_suffix_iff_getLast?_eq_some]
    constructor
    · intro h'
      exact absurd h' h
    · rintro ⟨s, rfl⟩
      exact absurd (by simp) h

/-- The text with a carriage return put before every line feed. -/
def withReturns (t : Text) : Text := t.flatMap fun c => if c = '\n' then ['\r', '\n'] else [c]

lemma withReturns_append (s t : Text) : withReturns (s ++ t) = s.withReturns ++ t.withReturns :=
  List.flatMap_append

lemma withReturns_of_notMem {t : Text} (h : '\n' ∉ t) : t.withReturns = t := by
  induction t with
  | nil => rfl
  | cons c t ih =>
    rw [List.mem_cons, not_or] at h
    rw [withReturns, List.flatMap_cons, if_neg (Ne.symm h.1)]
    exact congrArg (c :: ·) (ih h.2)

lemma withReturns_join {ls : List Text} (h : ∀ l ∈ ls, '\n' ∉ l) :
    withReturns (join ['\n'] ls ++ ['\n']) = join ['\r', '\n'] ls ++ ['\r', '\n'] := by
  by_cases hnil : ls = []
  · rw [hnil]
    rfl
  · have hline : ∀ l ∈ ls, withReturns (l ++ ['\n']) = l ++ ['\r', '\n'] := by
      intro l hl
      rw [withReturns_append, withReturns_of_notMem (h l hl)]
      rfl
    rw [join_append_separator _ hnil, join_append_separator _ hnil, withReturns, List.flatMap_assoc]
    exact List.flatMap_congr hline

/-- The second text is the first with a carriage return put before some of its line feeds. -/
inductive AddsReturns : Text → Text → Prop where
  | nil : AddsReturns [] []
  | keep (c : Char) {t u : Text} : AddsReturns t u → AddsReturns (c :: t) (c :: u)
  | add {t u : Text} : AddsReturns t u → AddsReturns ('\n' :: t) ('\r' :: '\n' :: u)

lemma addsReturns_withReturns (t : Text) : AddsReturns t t.withReturns := by
  induction t with
  | nil => exact .nil
  | cons c t ih =>
    by_cases hc : c = '\n'
    · subst hc
      exact .add ih
    · rw [withReturns, List.flatMap_cons, if_neg hc]
      exact .keep c ih

/-- Each line stays as it is or has one carriage return more at its end. -/
theorem AddsReturns.lines {t u : Text} (h : AddsReturns t u) :
    List.Forall₂ (fun l m => m = l ∨ m = l ++ ['\r']) t.lines u.lines := by
  induction h with
  | nil => exact .cons (.inl rfl) .nil
  | @keep c t u _ ih =>
    by_cases hc : c = '\n'
    · subst hc
      rw [lines_newline_cons, lines_newline_cons]
      exact .cons (.inl rfl) ih
    · -- The character stands in front of the first lines of both texts.
      obtain ⟨l, ls, hl⟩ := List.exists_cons_of_ne_nil (split_ne_nil (· == '\n') t)
      obtain ⟨m, ms, hm⟩ := List.exists_cons_of_ne_nil (split_ne_nil (· == '\n') u)
      rw [Text.lines, Text.lines, hl, hm, List.forall₂_cons] at ih
      obtain ⟨hlm, hrest⟩ := ih
      rw [lines_cons_of_ne hc hl, lines_cons_of_ne hc hm]
      refine .cons ?_ hrest
      rcases hlm with rfl | rfl
      · exact .inl rfl
      · exact .inr rfl
  | @add t u _ ih =>
    rw [lines_newline_cons, lines_cons_of_ne (by decide) (lines_newline_cons u)]
    exact .cons (.inr rfl) ih

end AmbientDecls.Text
