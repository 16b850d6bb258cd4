import AmbientDecls.Proofs.Declaration.Signatures
import AmbientDecls.Proofs.DocComment.Steps

/-!
# The type in a summary

A summary is cut at the first opening brace that is closed on its own line, and at the brace that
closes it; the type token of the property is what stands between them. An opening brace in front of
these two is passed over because its line ends before a brace closes it, and one behind belongs to
the token. There is one way to cut a summary like this, and no way if every opening brace is passed
over.
-/

namespace AmbientDecls

open Text

/-- The first line of the text ends before any closing brace. -/
def BreaksFirst (t : Text) : Prop := ∃ a b, t = a ++ '\n' :: b ∧ '}' ∉ a

/-- The text is cut at the first opening brace that is closed on its own line, with `token` between
the two braces. -/
structure IsFirstGroup (t before token after : Text) : Prop where
  cut : t = before ++ '{' :: (token ++ '}' :: after)
  closing : '}' ∉ token
  newline : '\n' ∉ token
  passed : ∀ a b, before = a ++ '{' :: b → BreaksFirst (b ++ '{' :: (token ++ '}' :: after))

lemma breaksFirst_cons (c : Char) (t : Text) :
    BreaksFirst (c :: t) ↔ c = '\n' ∨ c ≠ '}' ∧ BreaksFirst t := by
  constructor
  · rintro ⟨a, b, h, ha⟩
    cases a with
    | nil => exact .inl (List.cons.inj h).1
    | cons d a =>
      obtain ⟨rfl, rfl⟩ := List.cons.inj h
      rw [List.mem_cons, not_or] at ha
      exact .inr ⟨Ne.symm ha.1, a, b, rfl, ha.2⟩
  · rintro (rfl | ⟨hc, a, b, rfl, ha⟩)
    · exact ⟨[], t, rfl, List.not_mem_nil⟩
    · refine ⟨c :: a, b, rfl, ?_⟩
      rw [List.mem_cons, not_or]
      exact ⟨Ne.symm hc, ha⟩

lemma upToBrace_eq_none_iff (t : Text) : upToBrace t = none ↔ BreaksFirst t ∨ '}' ∉ t := by
  induction t with
  | nil =>
    have hnil : '}' ∉ ([] : Text) := List.not_mem_nil
    exact iff_of_true rfl (.inr hnil)
  | cons c t ih =>
    rw [upToBrace, breaksFirst_cons, List.mem_cons, not_or]
    by_cases hclose : c = '}'
    · subst hclose
      simp
    · by_cases hfeed : c = '\n'
      · subst hfeed
        simp
      · rw [if_neg hclose, if_neg hfeed, Option.map_eq_none_iff, ih]
        simp [hclose, hfeed, Ne.symm hclose]

lemma upToBrace_append {token : Text} (hclosing : '}' ∉ token) (hnewline : '\n' ∉ token)
    (after : Text) : upToBrace (token ++ '}' :: after) = some token := by
  induction token with
  | nil => rfl
  | cons c token ih =>
    rw [List.mem_cons, not_or] at hclosing hnewline
    rw [List.cons_append, upToBrace, if_neg (Ne.symm hclosing.1), if_neg (Ne.symm hnewline.1),
      ih hclosing.2 hnewline.2]
    rfl

lemma exists_of_upToBrace {t token : Text} (h : upToBrace t = some token) :
    '}' ∉ token ∧ ∃ after, t = token ++ '}' :: after := by
  induction t generalizing token with
  | nil => cases h
  | cons c t ih =>
    rw [upToBrace] at h
    split at h
    · next hclose =>
      rw [← Option.some.inj h, hclose]
      exact ⟨List.not_mem_nil, t, rfl⟩
    · next hclose =>
      split at h
      · cases h
      · obtain ⟨token, htoken, rfl⟩ := Option.map_eq_some_iff.mp h
        obtain ⟨hnot, after, rfl⟩ := ih htoken
        rw [List.mem_cons, not_or]
        exact ⟨⟨Ne.symm hclose, hnot⟩, after, rfl⟩

lemma not_breaksFirst {token : Text} (hclosing : '}' ∉ token) (hnewline : '\n' ∉ token)
    (after : Text) : ¬BreaksFirst (token ++ '}' :: after) := by
  intro h
  have hnone := (upToBrace_eq_none_iff (token ++ '}' :: after)).mpr (.inl h)
  rw [upToBrace_append hclosing hnewline] at hnone
  cases hnone

/-- A character in front of a text is one more place to look at. -/
lemma forall_behind_cons {P : Text → Prop} {x c : Char} {t : Text} :
    (∀ a b, c :: t = a ++ x :: b → P b) ↔ (c = x → P t) ∧ ∀ a b, t = a ++ x :: b → P b := by
  constructor
  · intro h
    refine ⟨fun hc => h [] t ?_, fun a b hb => h (c :: a) b ?_⟩
    · rw [hc]
      rfl
    · rw [hb]
      rfl
  · rintro ⟨hc, h⟩ a b hb
    cases a with
    | nil =>
      obtain ⟨rfl, rfl⟩ := List.cons.inj hb
      exact hc rfl
    | cons d a => exact h a b (List.cons.inj hb).2

lemma isFirstGroup_cons {c : Char} {t before token after : Text} :
    IsFirstGroup (c :: t) (c :: before) token after ↔
      (c = '{' → BreaksFirst t) ∧ IsFirstGroup t before token after := by
  constructor
  · intro h
    have hcut : t = before ++ '{' :: (token ++ '}' :: after) := (List.cons.inj h.cut).2
    obtain ⟨hc, hpassed⟩ := forall_behind_cons.mp h.passed
    rw [← hcut] at hc
    exact ⟨hc, hcut, h.closing, h.newline, hpassed⟩
  · rintro ⟨hc, h⟩
    rw [h.cut] at hc
    exact ⟨congrArg (c :: ·) h.cut, h.closing, h.newline, forall_behind_cons.mpr ⟨hc, h.passed⟩⟩

/-- Of two cuts of one text neither is in front of the other: the opening brace of the one in front
would have been passed over by the other, although its line has a closing brace. -/
lemma IsFirstGroup.before_eq {t b₁ k₁ a₁ b₂ k₂ a₂ : Text} (h₁ : IsFirstGroup t b₁ k₁ a₁)
    (h₂ : IsFirstGroup t b₂ k₂ a₂) (hle : b₁ <+: b₂) : b₁ = b₂ := by
  obtain ⟨u, rfl⟩ := hle
  have hcut := h₁.cut.symm.trans h₂.cut
  rw [List.append_assoc, List.append_cancel_left_eq] at hcut
  cases u with
  | nil => exact (List.append_nil b₁).symm
  | cons c u =>
    obtain ⟨rfl, hrest⟩ := List.cons.inj hcut
    have hbreaks := h₂.passed b₁ u rfl
    have hrest' : u ++ '{' :: (k₂ ++ '}' :: a₂) = k₁ ++ '}' :: a₁ := hrest.symm
    rw [hrest'] at hbreaks
    exact absurd hbreaks (not_breaksFirst h₁.closing h₁.newline a₁)

theorem IsFirstGroup.unique {t b₁ k₁ a₁ b₂ k₂ a₂ : Text} (h₁ : IsFirstGroup t b₁ k₁ a₁)
    (h₂ : IsFirstGroup t b₂ k₂ a₂) : b₁ = b₂ ∧ k₁ = k₂ ∧ a₁ = a₂ := by
  have hbefore : b₁ = b₂ := by
    have hp₁ : b₁ <+: t := h₁.cut ▸ List.prefix_append b₁ _
    have hp₂ : b₂ <+: t := h₂.cut ▸ List.prefix_append b₂ _
    rcases List.prefix_or_prefix_of_prefix hp₁ hp₂ with hp | hp
    · exact h₁.before_eq h₂ hp
    · exact (h₂.before_eq h₁ hp).symm
  subst hbefore
  have hcut := h₁.cut.symm.trans h₂.cut
  rw [List.append_cancel_left_eq, List.cons.injEq] at hcut
  have hclosing : ∀ k : Text, '}' ∉ k → ∀ c ∈ k, c ≠ '}' := fun k hk c hc heq => hk (heq ▸ hc)
  have hhead : ∀ a : Text, ∀ c ∈ ('}' :: a).head?, ¬c ≠ '}' := fun a c hc =>
    not_not.mpr (Option.some.inj hc).symm
  obtain ⟨htoken, hafter⟩ := append_inj_of_head (hclosing k₁ h₁.closing) (hclosing k₂ h₂.closing)
    (hhead a₁) (hhead a₂) hcut.2
  exact ⟨rfl, htoken, (List.cons.inj hafter).2⟩

/-! ### The search -/

/-- The induction is on the text: whatever is not the first group is one place further on. -/
theorem exists_isFirstGroup {t token : Text} (h : summaryType t = some token) :
    ∃ before after, IsFirstGroup t before token after := by
  have hnewline := newline_notMem_summaryType h
  induction t with
  | nil => cases h
  | cons c t ih =>
    rw [summaryType] at h
    split at h
    · next hopen =>
      subst hopen
      split at h
      · next k hk =>
        obtain rfl := Option.some.inj h
        obtain ⟨hclosing, after, rfl⟩ := exists_of_upToBrace hk
        exact ⟨[], after, rfl, hclosing, hnewline, fun a b hb => absurd hb (by simp)⟩
      · next hnone =>
        obtain ⟨before, after, hgroup⟩ := ih h
        have hmem : '}' ∈ t := by
          rw [hgroup.cut]
          simp
        have hbreaks := ((upToBrace_eq_none_iff t).mp hnone).resolve_right (not_not.mpr hmem)
        exact ⟨'{' :: before, after, isFirstGroup_cons.mpr ⟨fun _ => hbreaks, hgroup⟩⟩
    · next hopen =>
      obtain ⟨before, after, hgroup⟩ := ih h
      exact ⟨c :: before, after, isFirstGroup_cons.mpr ⟨fun hc => absurd hc hopen, hgroup⟩⟩

theorem IsFirstGroup.summaryType_eq {t before token after : Text}
    (h : IsFirstGroup t before token after) : summaryType t = some token := by
  induction before generalizing t with
  | nil =>
    rw [h.cut, List.nil_append, summaryType, if_pos rfl,
      upToBrace_append h.closing h.newline after]
  | cons c before ih =>
    obtain ⟨t, rfl⟩ : ∃ u, t = c :: u := ⟨_, h.cut⟩
    obtain ⟨hbreaks, hrest⟩ := isFirstGroup_cons.mp h
    rw [summaryType]
    split
    · next hopen =>
      rw [(upToBrace_eq_none_iff t).mpr (.inl (hbreaks hopen))]
      exact ih hrest
    · exact ih hrest

lemma summaryType_eq_some_iff (t token : Text) :
    summaryType t = some token ↔ ∃ before after, IsFirstGroup t before token after :=
  ⟨exists_isFirstGroup, fun ⟨_, _, h⟩ => h.summaryType_eq⟩

lemma summaryType_eq_none_iff (t : Text) :
    summaryType t = none ↔ ∀ a b, t = a ++ '{' :: b → BreaksFirst b ∨ '}' ∉ b := by
  induction t with
  | nil => exact iff_of_true rfl fun a b h => absurd h (by simp)
  | cons c t ih =>
    rw [forall_behind_cons, ← ih, ← upToBrace_eq_none_iff, summaryType]
    by_cases hopen : c = '{'
    · subst hopen
      rw [if_pos rfl]
      cases hup : upToBrace t with
      | none => simp
      | some token => simp
    · rw [if_neg hopen]
      simp [hopen]

lemma Property.signature_suffix (p : Property) (owner : Owner) :
    ": ".toList ++ (mapType p.token .other).toList ++ [';'] <:+
      (p.declaration owner).signature := by
  refine ⟨owner.modifier ++ p.name.toList, ?_⟩
  simp [declaration, token]

lemma MemberDecl.unlines_lines (m : MemberDecl) :
    unlines m.lines = m.comment.written ['\t'] ++ ('\t' :: m.signature) ++ ['\n'] := by
  rw [lines, unlines_append, DocComment.written]
  simp

/-- The type token of a summary is what stands in its first group that is opened and closed on one
line: such a group is unique, and a summary without a token has none. So a token has no line feed,
and below the comment of a property one line declares it, with the type of the token at its end. -/
theorem summaryType_first_group :
    (∀ t token, summaryType t = some token ↔
      ∃ before after, IsFirstGroup t before token after) ∧
    (∀ t b₁ k₁ a₁ b₂ k₂ a₂, IsFirstGroup t b₁ k₁ a₁ → IsFirstGroup t b₂ k₂ a₂ →
      b₁ = b₂ ∧ k₁ = k₂ ∧ a₁ = a₂) ∧
    (∀ t, summaryType t = none ↔ ∀ a b, t = a ++ '{' :: b → BreaksFirst b ∨ '}' ∉ b) ∧
    ∀ (p : Property) (owner : Owner), '\n' ∉ p.name.toList → ∃ line,
      unlines (p.declaration owner).lines =
        (p.declaration owner).comment.written ['\t'] ++ line ++ ['\n'] ∧
      '\n' ∉ line ∧ ": ".toList ++ (mapType p.token .other).toList ++ [';'] <:+ line := by
  refine ⟨summaryType_eq_some_iff, fun _ _ _ _ _ _ _ h₁ h₂ => h₁.unique h₂,
    summaryType_eq_none_iff, fun p owner hname => ?_⟩
  have hsignature := p.isSignature owner hname
  refine ⟨'\t' :: (p.declaration owner).signature, MemberDecl.unlines_lines _, ?_, ?_⟩
  · exact hsignature.isRecord_tab.newline
  · exact (p.signature_suffix owner).trans (List.suffix_cons _ _)

/-- An opening brace whose line breaks, the first group, with a brace in its token, and another
closing brace. -/
theorem summaryType_first_group_nested :
    let p : Property := { name := "n\r", summary := some "\x7ba\n\x7d\x7bb\x7bc\x7d d\x7d" }
    let t : Text := "\x7ba\n\x7d\x7bb\x7bc\x7d d\x7d".toList
    IsFirstGroup t "\x7ba\n\x7d".toList "b\x7bc".toList " d\x7d".toList ∧
      summaryType t = some "b\x7bc".toList ∧
      (∀ b k a, IsFirstGroup t b k a →
        b = "\x7ba\n\x7d".toList ∧ k = "b\x7bc".toList ∧ a = " d\x7d".toList) ∧
      '\n' ∉ p.name.toList ∧ ∃ line,
        unlines (p.declaration .classItself).lines =
          (p.declaration .classItself).comment.written ['\t'] ++ line ++ ['\n'] ∧
        '\n' ∉ line ∧ ": b\x7bc;".toList <:+ line := by
  intro p t
  obtain ⟨hsome, hunique, -, hproperty⟩ := summaryType_first_group
  have hfirst : IsFirstGroup t "\x7ba\n\x7d".toList "b\x7bc".toList " d\x7d".toList := by
    have hbreaks : BreaksFirst "a\n\x7d\x7bb\x7bc\x7d d\x7d".toList := ⟨['a'], _, rfl, by decide⟩
    refine isFirstGroup_cons.mpr ⟨fun _ => hbreaks, ?_⟩
    refine isFirstGroup_cons.mpr ⟨fun h => absurd h (by decide), ?_⟩
    refine isFirstGroup_cons.mpr ⟨fun h => absurd h (by decide), ?_⟩
    refine isFirstGroup_cons.mpr ⟨fun h => absurd h (by decide), ?_⟩
    exact ⟨rfl, by decide, by decide, fun a b hb => absurd hb (by simp)⟩
  have hname : '\n' ∉ p.name.toList := by decide
  have htype : (mapType p.token .other).toList = "b\x7bc".toList := by decide +kernel
  have hline := hproperty p .classItself hname
  rw [htype] at hline
  exact ⟨hfirst, (hsome t _).mpr ⟨_, _, hfirst⟩, fun b k a h => hunique t b k a _ _ _ h hfirst,
    hname, hline⟩

end AmbientDecls
