import AmbientDecls.DocComment
import AmbientDecls.Proofs.Text.Blank

/-!
# Documentation comments end where they end

Escaping leaves no asterisk with a slash behind it in the lines of a comment, so the only end mark
of a written block is the one of its last line, whatever text went into the comment. The lines a
comment is written as are read back as an opening line, inner lines that hold no end mark, and a
closing line (`flatMap_lines_render`).
-/

namespace AmbientDecls.DocComment

open Text

lemma head?_escape (t : Text) : (escape t).head? = t.head? := by
  fun_cases escape t <;> rfl

theorem end_notInfix_escape (t : Text) : ¬['*', '/'] <:+: escape t := by
  fun_induction escape t with
  | case1 rest ih =>
    rw [List.infix_cons_iff, List.infix_cons_iff, List.infix_cons_iff]
    rintro (h | h | h | h)
    · exact absurd (List.cons_prefix_cons.mp (List.cons_prefix_cons.mp h).2).1 (by decide)
    · exact absurd (List.cons_prefix_cons.mp h).1 (by decide)
    · exact absurd (List.cons_prefix_cons.mp h).1 (by decide)
    · exact ih h
  | case2 c rest hc ih =>
    rw [List.infix_cons_iff]
    rintro (h | h)
    · -- The slash would have been in the text, right behind the asterisk.
      obtain ⟨rfl, hslash⟩ := List.cons_prefix_cons.mp h
      obtain ⟨t, ht⟩ := hslash
      have hhead := head?_escape rest
      rw [← ht] at hhead
      obtain ⟨rest', rfl⟩ := List.head?_eq_some_iff.mp hhead.symm
      exact hc rest' rfl rfl
    · exact ih h
  | case3 => simp

lemma mem_of_mem_escape {c : Char} {t : Text} (h : c ∈ escape t) : c ∈ t ∨ c = '\\' := by
  fun_induction escape t with
  | case1 rest ih =>
    simp only [List.mem_cons] at h ⊢
    tauto
  | case2 d rest hd ih =>
    simp only [List.mem_cons] at h ⊢
    tauto
  | case3 => exact absurd h List.not_mem_nil

lemma newline_notMem_escape {t : Text} (h : '\n' ∉ t) : '\n' ∉ escape t := by
  intro hc
  rcases mem_of_mem_escape hc with hc | hc
  · exact h hc
  · exact absurd hc (by decide)

/-- Every line is what escaping makes of a text with the property. -/
def EscapedFrom (P : Text → Prop) (d : DocComment) : Prop := ∀ l ∈ d.lines, ∃ t, P t ∧ l = escape t

section Building

variable {P : Text → Prop} {d : DocComment}

lemma escapedFrom_empty : EscapedFrom P {} := fun _ h => absurd h List.not_mem_nil

lemma EscapedFrom.line (h : d.EscapedFrom P) {l : Text} (hl : P l) :
    (d.line l).EscapedFrom P := by
  refine List.forall_mem_append.mpr ⟨h, ?_⟩
  rw [List.forall_mem_singleton]
  exact ⟨l, hl, rfl⟩

variable (hP : ∀ t, '\n' ∉ t → P t)

include hP

lemma EscapedFrom.blank (h : d.EscapedFrom P) : d.blank.EscapedFrom P := by
  refine List.forall_mem_append.mpr ⟨h, ?_⟩
  rw [List.forall_mem_singleton]
  exact ⟨[], hP [] List.not_mem_nil, rfl⟩

lemma EscapedFrom.text (h : d.EscapedFrom P) (t : Text) : (d.text t).EscapedFrom P := by
  refine List.forall_mem_append.mpr ⟨h, fun l hl => ?_⟩
  obtain ⟨piece, hp, rfl⟩ := List.mem_map.mp hl
  refine ⟨piece.dropReturn, hP _ fun hn => ?_, rfl⟩
  exact newline_notMem_of_mem_lines hp ((dropReturn_isPrefix piece).mem hn)

lemma EscapedFrom.text? (h : d.EscapedFrom P) (t : Option String) :
    (d.text? t).EscapedFrom P := by
  rw [DocComment.text?]
  split
  · exact h
  · exact h.text hP _

lemma EscapedFrom.foldl_text {α : Type} (f : α → Text) (xs : List α) (h : d.EscapedFrom P) :
    (xs.foldl (fun d x => d.text (f x)) d).EscapedFrom P := by
  induction xs generalizing d with
  | nil => exact h
  | cons x xs ih => exact ih (h.text hP (f x))

end Building

lemma EscapedFrom.end_notInfix {P : Text → Prop} {d : DocComment} (h : d.EscapedFrom P) {l : Text}
    (hl : l ∈ d.lines) : ¬['*', '/'] <:+: l := by
  obtain ⟨t, -, rfl⟩ := h l hl
  exact end_notInfix_escape t

lemma EscapedFrom.newline_notMem {d : DocComment} (h : d.EscapedFrom ('\n' ∉ ·)) {l : Text}
    (hl : l ∈ d.lines) : '\n' ∉ l := by
  obtain ⟨t, ht, rfl⟩ := h l hl
  exact newline_notMem_escape ht

/-! ### The written block -/

section Block

variable {indent : Text} (hindent : IsBlankText indent)

include hindent

lemma end_notInfix_renderLine {l : Text} (hl : ¬['*', '/'] <:+: l) :
    ¬['*', '/'] <:+: renderLine indent l := by
  have hi : ¬['*', '/'] <:+: indent := fun h => absurd (hindent '/' (h.mem (by simp))) (by decide)
  rw [renderLine]
  split
  · rw [pair_infix_append]
    rintro (h | h | ⟨-, h⟩)
    · exact hi h
    · exact absurd h (by decide)
    · exact absurd h (by decide)
  · rw [pair_infix_append, pair_infix_append]
    rintro ((h | h | ⟨-, h⟩) | h | ⟨h, -⟩)
    · exact hi h
    · exact absurd h (by decide)
    · exact absurd h (by decide)
    · exact hl h
    · simp at h

lemma exists_trim_renderLine (l : Text) : ∃ t, trim (renderLine indent l) = '*' :: t := by
  rw [renderLine]
  split
  · exact ⟨[], trim_blank_append hindent _⟩
  · have hb : IsBlankText (indent ++ [' ']) :=
      List.forall_mem_append.mpr ⟨hindent, isBlankText_replicate (n := 1) rfl⟩
    have hsplit : indent ++ " * ".toList ++ l = (indent ++ [' ']) ++ '*' :: ' ' :: l := by
      simp
    rw [hsplit, trim_blank_append hb, trim_cons rfl]
    exact ⟨_, rfl⟩

omit hindent

/-- What stands in the written block between its opening mark and its end mark. -/
def body (d : DocComment) (indent : Text) : Text :=
  "*".toList ++ '\n' :: unlines (d.lines.map (renderLine indent)) ++ (indent ++ [' '])

lemma unlines_render (d : DocComment) (indent : Text) :
    unlines (d.render indent) = indent ++ '/' :: '*' :: (d.body indent ++ "*/\n".toList) := by
  rw [render, unlines_append, unlines_cons]
  simp [unlines, body]

/-- The lines of the written block: a line that opens it, inner lines, and a line that closes it. -/
theorem flatMap_lines_render (hn : '\n' ∉ indent) (d : DocComment) :
    (d.render indent).flatMap Text.lines =
      (indent ++ "/**".toList) :: (d.lines.map (renderLine indent)).flatMap Text.lines ++
        [indent ++ " */".toList] := by
  have hopen : '\n' ∉ indent ++ "/**".toList := by
    rw [List.mem_append, not_or]
    exact ⟨hn, by decide⟩
  have hclose : '\n' ∉ indent ++ " */".toList := by
    rw [List.mem_append, not_or]
    exact ⟨hn, by decide⟩
  rw [render, List.flatMap_append, List.flatMap_cons, List.flatMap_singleton, lines_of_notMem hopen,
    lines_of_notMem hclose]
  rfl

lemma newline_notMem_renderLine (hn : '\n' ∉ indent) {l : Text} (hl : '\n' ∉ l) :
    '\n' ∉ renderLine indent l := by
  rw [renderLine]
  split
  · rw [List.mem_append, not_or]
    exact ⟨hn, by decide⟩
  · rw [List.mem_append, List.mem_append, not_or, not_or]
    exact ⟨⟨hn, by decide⟩, hl⟩

/-- A comment with no line feed in its lines is written in just these lines. -/
lemma EscapedFrom.newline_notMem_render (hn : '\n' ∉ indent) {d : DocComment}
    (h : d.EscapedFrom ('\n' ∉ ·)) : ∀ l ∈ d.render indent, '\n' ∉ l := by
  have hmark : ∀ mark : Text, '\n' ∉ mark → '\n' ∉ indent ++ mark := fun mark hm hc =>
    (List.mem_append.mp hc).elim hn hm
  refine List.forall_mem_append.mpr ⟨List.forall_mem_cons.mpr ⟨hmark _ (by decide), ?_⟩, ?_⟩
  · exact List.forall_mem_map.mpr fun l hl => newline_notMem_renderLine hn (h.newline_notMem hl)
  · rw [List.forall_mem_singleton]
    exact hmark _ (by decide)

include hindent

/-- No inner line of the written block holds an end mark. -/
theorem EscapedFrom.end_notInfix_inner {P : Text → Prop} {d : DocComment} (h : d.EscapedFrom P) :
    ∀ l ∈ (d.lines.map (renderLine indent)).flatMap Text.lines, ¬['*', '/'] <:+: l := by
  intro l hl hi
  obtain ⟨r, hr, hl⟩ := List.mem_flatMap.mp hl
  obtain ⟨k, hk, rfl⟩ := List.mem_map.mp hr
  exact end_notInfix_renderLine hindent (h.end_notInfix hk) (hi.trans (infix_of_mem_lines hl))

/-- The text of the written block holds no end mark before the one of its last line. -/
theorem EscapedFrom.end_notInfix_body {P : Text → Prop} {d : DocComment} (h : d.EscapedFrom P) :
    ¬['*', '/'] <:+: d.body indent ++ ['*'] := by
  have hlines : ∀ l ∈ "*".toList :: d.lines.map (renderLine indent), ¬['*', '/'] <:+: l := by
    refine List.forall_mem_cons.mpr ⟨by decide, fun l hl => ?_⟩
    obtain ⟨k, hk, rfl⟩ := List.mem_map.mp hl
    exact end_notInfix_renderLine hindent (h.end_notInfix hk)
  have hslash : '/' ∉ indent ++ [' '] ++ ['*'] := by
    intro h
    rcases List.mem_append.mp h with h | h
    · rcases List.mem_append.mp h with h | h
      · exact absurd (hindent '/' h) (by decide)
      · exact absurd h (by decide)
    · exact absurd h (by decide)
  rw [body, ← unlines_cons, List.append_assoc, pair_infix_append]
  rintro (h | h | ⟨-, h⟩)
  · exact pair_notInfix_unlines (by decide) (by decide) hlines h
  · exact hslash (h.mem (by simp))
  · exact hslash (List.mem_of_mem_head? h)

end Block

end AmbientDecls.DocComment
