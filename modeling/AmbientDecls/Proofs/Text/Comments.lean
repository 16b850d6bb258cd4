import AmbientDecls.Proofs.Text.Lines

/-!
# Texts without their comments

A text is read from the left; at each `/*` it loses what follows through the next `*/` after it,
or everything if there is none. A mark never reaches across a line feed, so what a text loses below
a line depends on the line only by whether a comment is open at its end
(`withoutComments_line_congr`).
-/

namespace AmbientDecls.Text

/-- What is left of a text without its comments; `inside` is whether it begins in a comment. -/
def withoutComments : (inside : Bool) → Text → Text
  | _, [] => []
  | false, '/' :: '*' :: rest => withoutComments true rest
  | false, c :: rest => c :: withoutComments false rest
  | true, '*' :: '/' :: rest => withoutComments false rest
  | true, _ :: rest => withoutComments true rest

lemma withoutComments_outside {c : Char} {rest : Text} (h : ¬['/', '*'] <+: c :: rest) :
    withoutComments false (c :: rest) = c :: withoutComments false rest := by
  refine withoutComments.eq_3 c rest fun rest' hc hr => h ?_
  rw [hc, hr]
  exact List.prefix_append ['/', '*'] rest'

lemma withoutComments_inside {c : Char} {rest : Text} (h : ¬['*', '/'] <+: c :: rest) :
    withoutComments true (c :: rest) = withoutComments true rest := by
  refine withoutComments.eq_5 c rest fun rest' hc hr => h ?_
  rw [hc, hr]
  exact List.prefix_append ['*', '/'] rest'

/-- A mark that begins before a line feed stands before it. -/
lemma pair_prefix_append_newline {a b c : Char} (hb : b ≠ '\n') (l t : Text) :
    [a, b] <+: c :: (l ++ '\n' :: t) ↔ [a, b] <+: c :: l := by
  cases l with
  | nil =>
    rw [List.nil_append, List.cons_prefix_cons, List.cons_prefix_cons, List.cons_prefix_cons]
    simp [hb]
  | cons d l => simp [List.cons_prefix_cons]

/-- Texts that lose alike below a line lose alike with the line too. -/
theorem withoutComments_line_congr {t u : Text}
    (h : ∀ inside, withoutComments inside t = withoutComments inside u) (inside : Bool) (l : Text) :
    withoutComments inside (l ++ '\n' :: t) = withoutComments inside (l ++ '\n' :: u) := by
  fun_induction withoutComments inside l with
  | case1 inside =>
    cases inside with
    | false =>
      have hn : ∀ v, ¬['/', '*'] <+: '\n' :: v := fun v hp =>
        absurd (List.cons_prefix_cons.mp hp).1 (by decide)
      rw [List.nil_append, List.nil_append, withoutComments_outside (hn t),
        withoutComments_outside (hn u), h]
    | true =>
      have hn : ∀ v, ¬['*', '/'] <+: '\n' :: v := fun v hp =>
        absurd (List.cons_prefix_cons.mp hp).1 (by decide)
      rw [List.nil_append, List.nil_append, withoutComments_inside (hn t),
        withoutComments_inside (hn u), h]
  | case2 rest ih => exact ih
  | case3 c rest hc ih =>
    have hn : ∀ v, ¬['/', '*'] <+: c :: (rest ++ '\n' :: v) := by
      intro v hp
      rw [pair_prefix_append_newline (by decide)] at hp
      obtain ⟨rest', hp⟩ := hp
      simp only [List.cons_append, List.nil_append, List.cons.injEq] at hp
      exact hc rest' hp.1.symm hp.2.symm
    rw [List.cons_append, List.cons_append, withoutComments_outside (hn t),
      withoutComments_outside (hn u), ih]
  | case4 rest ih => exact ih
  | case5 c rest hc ih =>
    have hn : ∀ v, ¬['*', '/'] <+: c :: (rest ++ '\n' :: v) := by
      intro v hp
      rw [pair_prefix_append_newline (by decide)] at hp
      obtain ⟨rest', hp⟩ := hp
      simp only [List.cons_append, List.nil_append, List.cons.injEq] at hp
      exact hc rest' hp.1.symm hp.2.symm
    rw [List.cons_append, List.cons_append, withoutComments_inside (hn t),
      withoutComments_inside (hn u), ih]

lemma withoutComments_append_of_notMem {a : Text} (ha : '/' ∉ a) (t : Text) :
    withoutComments false (a ++ t) = a ++ withoutComments false t := by
  induction a with
  | nil => rfl
  | cons c a ih =>
    rw [List.mem_cons, not_or] at ha
    have hn : ¬['/', '*'] <+: c :: (a ++ t) := fun hp => ha.1 (List.cons_prefix_cons.mp hp).1
    rw [List.cons_append, withoutComments_outside hn, ih ha.2]
    rfl

lemma withoutComments_skip {a : Text} (ha : '*' ∉ a) (t : Text) :
    withoutComments true (a ++ t) = withoutComments true t := by
  induction a with
  | nil => rfl
  | cons c a ih =>
    rw [List.mem_cons, not_or] at ha
    have hn : ¬['*', '/'] <+: c :: (a ++ t) := fun hp => ha.1 (List.cons_prefix_cons.mp hp).1
    rw [List.cons_append, withoutComments_inside hn, ih ha.2]

lemma withoutComments_end {a : Text} (ha : ¬['*', '/'] <:+: a ++ ['*']) (t : Text) :
    withoutComments true (a ++ '*' :: '/' :: t) = withoutComments false t := by
  induction a with
  | nil => rfl
  | cons c a ih =>
    rw [List.cons_append, List.infix_cons_iff, not_or] at ha
    have hn : ¬['*', '/'] <+: c :: (a ++ '*' :: '/' :: t) := by
      intro hp
      refine ha.1 ?_
      cases a with
      | nil => exact absurd (List.cons_prefix_cons.mp (List.cons_prefix_cons.mp hp).2).1 (by decide)
      | cons d a => simpa [List.cons_prefix_cons] using hp
    rw [List.cons_append, withoutComments_inside hn, ih ha.2]

end AmbientDecls.Text
