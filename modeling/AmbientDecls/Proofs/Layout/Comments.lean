import AmbientDecls.Proofs.DocComment
import AmbientDecls.Proofs.Layout.Pass

/-!
# A pass over a written comment

The lines of a written documentation comment are lines of a comment to the layout too, whether or
not a comment was open before it. They leave the depth alone, and behind the last of them no
comment is open (`run_block`), so nothing that stands in a comment is seen by the lines below it.
-/

namespace AmbientDecls.Layout.Cursor

open Text

lemma closes_of_role {s : Cursor} {t : Text} (hr : (roleOf s.inComment t).1 ≠ .code) :
    (s.line t).closes = false := by
  have hr' : ((s.line t).role == .code) = false := by simpa [line] using hr
  rw [Line.closes, hr', Bool.false_and]

lemma next_of_role {s : Cursor} {t : Text} (hr : (roleOf s.inComment t).1 ≠ .code) :
    s.next t = ⟨s.depth, (roleOf s.inComment t).2, false, t.getLast? != some '\x7b'⟩ := by
  have hr' : ((s.line t).role == .code) = false := by simpa [line] using hr
  have ho : (s.line t).opens = false := by rw [Line.opens, hr', Bool.false_and]
  rw [next, here, closes_of_role hr, ho]
  rfl

lemma advance_of_role {s : Cursor} {raw : Text} (h : raw.trim ≠ [])
    (hr : (roleOf s.inComment raw.trim).1 ≠ .code) :
    s.advance raw =
      some ⟨s.depth, (roleOf s.inComment raw.trim).2, false, raw.trim.getLast? != some '\x7b'⟩ := by
  rw [advance_text h (by rw [closes_of_role hr, Bool.false_and]; exact Bool.false_ne_true),
    next_of_role hr]

variable {indent : Text} (hindent : IsBlankText indent)

include hindent

lemma advance_opening (s : Cursor) :
    s.advance (indent ++ "/**".toList) = some ⟨s.depth, true, false, true⟩ := by
  have ht : trim (indent ++ "/**".toList) = "/**".toList := trim_blank_append hindent _
  have hr : roleOf s.inComment "/**".toList = (if s.inComment then .inner else .comment, true) := by
    cases s.inComment <;> rfl
  rw [advance_of_role (by rw [ht]; decide) (by rw [ht, hr]; cases s.inComment <;> decide), ht, hr]
  rfl

lemma advance_closing {s : Cursor} (hs : s.inComment = true) :
    s.advance (indent ++ " */".toList) = some ⟨s.depth, false, false, true⟩ := by
  have ht : trim (indent ++ " */".toList) = "*/".toList := trim_blank_append hindent _
  have hr : roleOf s.inComment "*/".toList = (.inner, false) := by
    rw [hs]
    rfl
  rw [advance_of_role (by rw [ht]; decide) (by rw [ht, hr]; decide), ht, hr]
  rfl

omit hindent

lemma roleOf_inner {s : Cursor} (hs : s.inComment = true) {raw : Text} (h : ¬['*', '/'] <:+: raw) :
    roleOf s.inComment raw.trim = (.inner, true) := by
  have hi : Text.includes ['*', '/'] raw.trim = false := by
    rw [includes_eq_false_iff]
    intro hi
    exact h (hi.trans (trim_isInfix raw))
  rw [hs, roleOf, if_pos rfl]
  exact congrArg (Role.inner, ! ·) hi

lemma advance_inner {s : Cursor} (hs : s.inComment = true) {raw : Text}
    (h : ¬['*', '/'] <:+: raw) :
    ∃ s', s.advance raw = some s' ∧ s'.depth = s.depth ∧ s'.inComment = true := by
  by_cases hne : raw.trim = []
  · exact ⟨_, advance_blank hne s, rfl, hs⟩
  · have hr := roleOf_inner hs h
    refine ⟨_, advance_of_role hne (by rw [hr]; decide), rfl, ?_⟩
    rw [hr]

lemma run_inner {s : Cursor} (hs : s.inComment = true) {raws : List Text}
    (h : ∀ raw ∈ raws, ¬['*', '/'] <:+: raw) :
    ∃ s', s.run raws = some s' ∧ s'.depth = s.depth ∧ s'.inComment = true := by
  induction raws generalizing s with
  | nil => exact ⟨s, rfl, rfl, hs⟩
  | cons raw rest ih =>
    rw [List.forall_mem_cons] at h
    obtain ⟨s₁, h₁, hd₁, hc₁⟩ := advance_inner hs h.1
    obtain ⟨s₂, h₂, hd₂, hc₂⟩ := ih hc₁ h.2
    exact ⟨s₂, by rw [run_cons_of_advance h₁, h₂], hd₂.trans hd₁, hc₂⟩

include hindent

/-- Behind a written comment the cursor is where it was, outside of comments. -/
theorem run_block (hn : '\n' ∉ indent) {P : Text → Prop} {d : DocComment} (hd : d.EscapedFrom P)
    (s : Cursor) :
    s.run ((d.render indent).flatMap Text.lines) = some ⟨s.depth, false, false, true⟩ := by
  obtain ⟨s', hs', hdepth, hc⟩ := run_inner (s := ⟨s.depth, true, false, true⟩) rfl
    (hd.end_notInfix_inner hindent)
  rw [DocComment.flatMap_lines_render hn, List.cons_append,
    run_cons_of_advance (advance_opening hindent s), run_append_of_run hs',
    run_cons_of_advance (advance_closing hindent hc), run_nil, hdepth]

end AmbientDecls.Layout.Cursor
