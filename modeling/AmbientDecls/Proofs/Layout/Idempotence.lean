import AmbientDecls.Proofs.Layout.Written

/-!
# Laying out a document again

A document that has been laid out holds the same lines as before, trimmed alike, and its blank
lines are those that are kept. A second pass over it therefore moves its cursor as the first one
did (`reread_outputs`), and what it writes depends on the original document and on the last options
alone (`layout_again`).
-/

namespace AmbientDecls.Layout

open Text

/-- The cursor without a blank line before it. -/
def Cursor.settled (s : Cursor) : Cursor := { s with afterBlank := false }

/-- Reading what was written for one line moves the cursor as the line itself did, and what is
written for it now is what would have been written for the line. -/
lemma reread_emit {unit cr : Text} (hu : IsBlankText unit) (hcr : IsBlankText cr) (unit' : Text)
    {s s' : Cursor} {raw : Text} (h : s.advance raw = some s') :
    s.settled.run ((s.emit unit raw).map (· ++ cr)) = some s'.settled ∧
      s.settled.outputs unit' ((s.emit unit raw).map (· ++ cr)) = s.emit unit' raw := by
  by_cases hne : raw.trim = []
  · rw [Cursor.advance_blank hne, Option.some.injEq] at h
    rw [Cursor.emit_blank hne, Cursor.emit_blank hne, ← h]
    exact ⟨rfl, rfl⟩
  · obtain ⟨hf, rfl⟩ := Cursor.next_of_advance hne h
    have ht : trim (indented unit (s.here (s.line raw.trim)) (s.line raw.trim) ++ cr) = raw.trim :=
      trim_indented hu (isTrimmed_trim raw) _ hcr
    by_cases hk : (s.afterBlank && s.room && ! (s.line raw.trim).closes) = true
    · -- The empty line that was kept brings the cursor back to where it was before the line.
      have hblank : trim ([] ++ cr) = [] := (trim_eq_nil_iff _).mpr hcr
      have hs : { s.settled with afterBlank := true } = s := by
        rw [Bool.and_eq_true, Bool.and_eq_true] at hk
        rw [Cursor.settled, ← hk.1.1]
      have h₁ : s.settled.advance ([] ++ cr) = some s := by rw [Cursor.advance_blank hblank, hs]
      have h₂ := (Cursor.advance_congr ht s).trans (Cursor.advance_text hne hf)
      rw [Cursor.emit_kept hne hk, List.map_cons, List.map_cons, List.map_nil,
        Cursor.run_cons_of_advance h₁, Cursor.run_cons_of_advance h₂,
        Cursor.outputs_cons_of_advance h₁, Cursor.outputs_cons_of_advance h₂,
        Cursor.emit_blank hblank, Cursor.emit_congr ht, Cursor.outputs, List.nil_append, List.append_nil]
      exact ⟨rfl, rfl⟩
    · have hf' : ¬((s.settled.line raw.trim).closes && s.settled.depth == 0) = true := hf
      have hk' : ¬(s.settled.afterBlank && s.settled.room &&
          ! (s.settled.line raw.trim).closes) = true := Bool.false_ne_true
      have h₁ := (Cursor.advance_congr ht s.settled).trans (Cursor.advance_text hne hf')
      rw [Cursor.emit_text hne hk, Cursor.emit_text hne hk, List.map_cons, List.map_nil,
        Cursor.run_cons_of_advance h₁, Cursor.outputs_cons_of_advance h₁, Cursor.emit_congr ht,
        Cursor.emit_text hne hk']
      exact ⟨rfl, rfl⟩

/-- Reading what was written for the lines of a document is as good as reading the document. -/
theorem reread_outputs {unit cr : Text} (hu : IsBlankText unit) (hcr : IsBlankText cr)
    (unit' : Text) {raws : List Text} {s e : Cursor} (h : s.run raws = some e) :
    s.settled.run ((s.outputs unit raws).map (· ++ cr)) = some e.settled ∧
      s.settled.outputs unit' ((s.outputs unit raws).map (· ++ cr)) = s.outputs unit' raws := by
  induction raws generalizing s with
  | nil =>
    rw [Cursor.run_nil, Option.some.injEq] at h
    rw [← h]
    exact ⟨rfl, rfl⟩
  | cons raw rest ih =>
    rw [Cursor.run_cons, Option.bind_eq_some_iff] at h
    obtain ⟨s', hadv, h⟩ := h
    obtain ⟨hrun, hout⟩ := ih h
    obtain ⟨hrun₁, hout₁⟩ := reread_emit hu hcr unit' hadv
    rw [Cursor.outputs_cons_of_advance hadv, Cursor.outputs_cons_of_advance hadv, List.map_append,
      Cursor.run_append_of_run hrun₁, Cursor.outputs_append_of_run hrun₁, hout₁, hout]
    exact ⟨hrun, rfl⟩

/-! ### Laying out twice -/

/-- A document that keeps its terminators has them after it has been laid out too. -/
lemma terminator_again {o₁ o₂ : Options} {t u : Text}
    (ho : o₁.replaceLineEndings = false ∨ o₂.replaceLineEndings = true) (h : layout o₁ t = .ok u) :
    o₂.terminator u = o₂.terminator t := by
  by_cases h₂ : o₂.replaceLineEndings = true
  · simp only [Options.terminator, h₂, Bool.not_true, Bool.false_and]
  · have h₁ : o₁.replaceLineEndings = false := ho.resolve_right h₂
    have hi : Text.includes ['\r', '\n'] u = Text.includes ['\r', '\n'] t := by
      rw [Bool.eq_iff_iff, includes_iff_isInfix, includes_iff_isInfix, return_infix_layout_iff h]
      exact and_iff_right h₁
    rw [Options.terminator, Options.terminator, hi]

lemma pass_again {o : Options} {t u : Text} {s : Cursor} (hs : Cursor.start.run t.lines = some s)
    (hu : u = Text.join (o.terminator t) (Cursor.start.outputs o.unit t.lines) ++ o.terminator t)
    (unit : Text) :
    Cursor.start.run u.lines = some { s with afterBlank := true } ∧
      Cursor.start.outputs unit u.lines = Cursor.start.outputs unit t.lines := by
  obtain ⟨cr, hcr, hterm⟩ := o.terminator_eq t
  have hblank := isBlankText_return hcr
  obtain ⟨hrun, hout⟩ := reread_outputs o.isBlankText_unit hblank unit hs
  obtain ⟨body, hbody, hcases⟩ := lines_written hcr (isTidy_outputs o t)
  rw [hu, hterm, hbody]
  rcases hcases with ⟨hnil, rfl⟩ | rfl
  · -- Nothing but terminators: both lines of the written document are blank.
    have hcrt : trim cr = [] := (trim_eq_nil_iff cr).mpr hblank
    rw [hnil, List.map_nil] at hrun hout
    have hs' : Cursor.start = s.settled := Option.some.inj hrun
    rw [← hout, List.singleton_append, Cursor.run_cons_of_advance (Cursor.advance_blank hcrt _),
      Cursor.outputs_cons_of_advance (Cursor.advance_blank hcrt _), Cursor.emit_blank hcrt]
    refine ⟨?_, rfl⟩
    rw [Cursor.run_cons_of_advance (Cursor.advance_blank rfl _), Cursor.run_nil, hs']
    rfl
  · have hrun' : Cursor.start.run _ = some s.settled := hrun
    rw [Cursor.run_append_of_run hrun', Cursor.outputs_append_of_run hrun',
      Cursor.run_cons_of_advance (Cursor.advance_blank rfl _),
      Cursor.outputs_cons_of_advance (Cursor.advance_blank rfl _)]
    exact ⟨rfl, (List.append_nil _).trans hout⟩

theorem layout_again {o₁ o₂ : Options} {t u : Text}
    (ho : o₁.replaceLineEndings = false ∨ o₂.replaceLineEndings = true) (h : layout o₁ t = .ok u) :
    ∃ v, layout o₂ u = .ok v ∧ layout o₂ t = .ok v := by
  obtain ⟨⟨s, hs, hd⟩, hu⟩ := (layout_eq_ok_iff o₁ t u).mp h
  obtain ⟨hrun, hout⟩ := pass_again hs hu o₂.unit
  refine ⟨_, (layout_eq_ok_iff o₂ u _).mpr ⟨⟨_, hrun, hd⟩, rfl⟩,
    (layout_eq_ok_iff o₂ t _).mpr ⟨⟨s, hs, hd⟩, ?_⟩⟩
  rw [hout, terminator_again ho h]

/-- Laying out a document that has been laid out gives what the last options alone give, unless the
first ones have replaced the terminators that the last ones would keep. With the same options
again, the document stays as it is. -/
theorem last_layout_wins (o₁ o₂ : Options) (t u : Text)
    (ho : o₁.replaceLineEndings = false ∨ o₂.replaceLineEndings = true) (h : layout o₁ t = .ok u) :
    (∃ v, layout o₂ u = .ok v ∧ layout o₂ t = .ok v) ∧ layout o₁ u = .ok u := by
  refine ⟨layout_again ho h, ?_⟩
  have hkeep : o₁.replaceLineEndings = false ∨ o₁.replaceLineEndings = true :=
    (Bool.eq_false_or_eq_true _).symm
  obtain ⟨v, hv, ht⟩ := layout_again hkeep h
  rw [hv, ← ht, h]

/-- A document with two kinds of terminators, a carriage return inside a line, and blank lines in a
comment whose lines do not all start with an asterisk. -/
theorem last_layout_wins_mixed_terminators :
    let t := "class A \x7b\r\n\r\n/* x\r\n\n\n* y\rz */ \r\n\r\n\t\x7d".toList
    let u := "class A \x7b\r\n    /* x\r\n\r\n     * y\rz */\r\n\x7d\r\n".toList
    let o : Options := { convertTabsToSpaces := false, replaceLineEndings := true }
    layout {} t = .ok u ∧ (∃ v, layout o u = .ok v ∧ layout o t = .ok v) ∧ layout {} u = .ok u :=
  ⟨rfl, last_layout_wins {} { convertTabsToSpaces := false, replaceLineEndings := true }
    "class A \x7b\r\n\r\n/* x\r\n\n\n* y\rz */ \r\n\r\n\t\x7d".toList _ (.inl rfl) rfl⟩

end AmbientDecls.Layout
