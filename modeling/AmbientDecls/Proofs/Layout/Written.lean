import AmbientDecls.Proofs.Layout.Pass

/-!
# The written document

A line that is written is tidy: it holds no terminator and does not end in blank characters. So the
terminators of a written document are those that stand between its lines, and its lines are read
back as they were written, by splitting at line feeds (`lines_written`) and as they are counted in
a file (`records_written`).
-/

namespace AmbientDecls.Layout

open Text

lemma Options.isBlankText_unit (o : Options) : IsBlankText o.unit := by
  rw [Options.unit]
  split
  · exact isBlankText_replicate rfl _
  · exact isBlankText_replicate (n := 1) rfl

lemma Options.newline_notMem_unit (o : Options) : '\n' ∉ o.unit := by
  rw [Options.unit]
  split
  · intro h
    exact absurd (List.eq_of_mem_replicate h) (by decide)
  · decide

/-- A line that is written holds no terminator and does not end in blank characters. -/
structure IsTidy (l : Text) : Prop where
  newline : '\n' ∉ l
  last : ∀ c ∈ l.getLast?, isBlank c = false

lemma isTidy_nil : IsTidy [] := ⟨List.not_mem_nil, by simp⟩

lemma forall_mem_indentation {Q : Char → Prop} {unit : Text} (hu : ∀ c ∈ unit, Q c) (hs : Q ' ')
    (depth : Nat) (l : Line) : ∀ c ∈ (List.replicate depth unit).flatten ++ l.pad, Q c := by
  intro c hc
  rcases List.mem_append.mp hc with hc | hc
  · obtain ⟨u, hu', hc⟩ := List.mem_flatten.mp hc
    rw [List.eq_of_mem_replicate hu'] at hc
    exact hu c hc
  · rw [Line.pad] at hc
    split at hc
    · rw [List.mem_singleton.mp hc]
      exact hs
    · exact absurd hc List.not_mem_nil

lemma trim_indented {unit : Text} (hu : IsBlankText unit) {l : Line} (hl : IsTrimmed l.text)
    (depth : Nat) {b : Text} (hb : IsBlankText b) : trim (indented unit depth l ++ b) = l.text :=
  trim_surrounded (forall_mem_indentation hu rfl depth l) hl hb

lemma isTidy_indented {unit : Text} (hu : '\n' ∉ unit) {raw : Text} (hraw : '\n' ∉ raw)
    (hne : raw.trim ≠ []) (depth : Nat) {l : Line} (hl : l.text = raw.trim) :
    IsTidy (indented unit depth l) where
  newline := by
    have hu' : ∀ c ∈ unit, c ≠ '\n' := fun c hc h => hu (h ▸ hc)
    rw [indented, List.mem_append, not_or, hl]
    exact ⟨fun h => forall_mem_indentation hu' (by decide) depth l _ h rfl,
      fun h => hraw ((trim_isInfix raw).mem h)⟩
  last := by
    rw [indented, hl, List.getLast?_append_of_ne_nil _ hne]
    exact (isTrimmed_trim raw).last

lemma isTidy_of_mem_emit {unit : Text} (hu : '\n' ∉ unit) {raw : Text} (hraw : '\n' ∉ raw)
    {s : Cursor} {l : Text} (hl : l ∈ s.emit unit raw) : IsTidy l := by
  by_cases hne : raw.trim = []
  · rw [Cursor.emit_blank hne] at hl
    exact absurd hl List.not_mem_nil
  · rw [Cursor.emit, if_neg hne, List.mem_append, List.mem_singleton] at hl
    rcases hl with hl | rfl
    · split at hl
      · rw [List.mem_singleton.mp hl]
        exact isTidy_nil
      · exact absurd hl List.not_mem_nil
    · exact isTidy_indented hu hraw hne _ rfl

lemma isTidy_of_mem_outputs {unit : Text} (hu : '\n' ∉ unit) {raws : List Text}
    (hraws : ∀ raw ∈ raws, '\n' ∉ raw) {s : Cursor} {l : Text} (hl : l ∈ s.outputs unit raws) :
    IsTidy l := by
  induction raws generalizing s with
  | nil => exact absurd hl List.not_mem_nil
  | cons raw rest ih =>
    rw [List.forall_mem_cons] at hraws
    rw [Cursor.outputs, List.mem_append] at hl
    rcases hl with hl | hl
    · exact isTidy_of_mem_emit hu hraws.1 hl
    · cases hadv : s.advance raw with
      | none =>
        rw [hadv] at hl
        exact absurd hl List.not_mem_nil
      | some s' =>
        rw [hadv] at hl
        exact ih hraws.2 hl

/-- All lines that are written for a document are tidy. -/
lemma isTidy_outputs (o : Options) (t : Text) :
    ∀ l ∈ Cursor.start.outputs o.unit t.lines, IsTidy l := fun _ hl =>
  isTidy_of_mem_outputs o.newline_notMem_unit (fun _ => newline_notMem_of_mem_lines) hl

/-! ### Terminators -/

lemma Options.terminator_eq (o : Options) (t : Text) :
    ∃ cr, (cr = [] ∨ cr = ['\r']) ∧ o.terminator t = cr ++ ['\n'] := by
  rw [Options.terminator]
  split
  · exact ⟨['\r'], .inr rfl, rfl⟩
  · exact ⟨[], .inl rfl, rfl⟩

lemma isBlankText_return {cr : Text} (h : cr = [] ∨ cr = ['\r']) : IsBlankText cr := by
  rcases h with rfl | rfl
  · exact isBlankText_replicate (c := ' ') (n := 0) rfl
  · exact isBlankText_replicate (n := 1) rfl

lemma newline_notMem_return {cr : Text} (h : cr = [] ∨ cr = ['\r']) : '\n' ∉ cr := by
  rcases h with rfl | rfl <;> decide

lemma written_eq_unlines (cr : Text) {ls : List Text} (h : ls ≠ []) :
    Text.join (cr ++ ['\n']) ls ++ (cr ++ ['\n']) = unlines (ls.map (· ++ cr)) := by
  rw [join_append_separator _ h, unlines, List.flatMap_map]
  simp only [List.append_assoc]

lemma lines_written {cr : Text} (hcr : cr = [] ∨ cr = ['\r']) {ls : List Text}
    (hls : ∀ l ∈ ls, IsTidy l) :
    ∃ body, Text.lines (Text.join (cr ++ ['\n']) ls ++ (cr ++ ['\n'])) = body ++ [[]] ∧
      (ls = [] ∧ body = [cr] ∨ body = ls.map (· ++ cr)) := by
  have hn := newline_notMem_return hcr
  by_cases h : ls = []
  · subst h
    refine ⟨[cr], ?_, .inl ⟨rfl, rfl⟩⟩
    rw [Text.join, List.nil_append, lines_append_newline, lines_of_notMem hn]
    rfl
  · refine ⟨ls.map (· ++ cr), ?_, .inr rfl⟩
    rw [written_eq_unlines cr h, lines_unlines, flatMap_lines_eq_self]
    intro l hl
    obtain ⟨m, hm, rfl⟩ := List.mem_map.mp hl
    rw [List.mem_append, not_or]
    exact ⟨(hls m hm).newline, hn⟩

lemma return_notInfix_unlines {ls : List Text} (hls : ∀ l ∈ ls, IsTidy l) :
    ¬['\r', '\n'] <:+: unlines ls := by
  induction ls with
  | nil => simp
  | cons l ls ih =>
    rw [List.forall_mem_cons] at hls
    rw [unlines_cons, pair_infix_append, List.infix_cons_iff]
    rintro (h | (h | h) | ⟨h, -⟩)
    · exact hls.1.newline (h.mem (by simp))
    · exact absurd (List.cons_prefix_cons.mp h).1 (by decide)
    · exact ih hls.2 h
    · exact absurd (hls.1.last '\r' h) (by decide)

lemma return_notInfix_written {ls : List Text} (hls : ∀ l ∈ ls, IsTidy l) :
    ¬['\r', '\n'] <:+: Text.join ['\n'] ls ++ ['\n'] := by
  by_cases h : ls = []
  · subst h
    have hnil : ∀ l ∈ [([] : Text)], IsTidy l := List.forall_mem_singleton.mpr isTidy_nil
    exact return_notInfix_unlines hnil
  · rw [join_append_separator _ h]
    exact return_notInfix_unlines hls

/-- Carriage returns before line feeds are kept where the document has one and they are not to be
replaced. -/
theorem return_infix_layout_iff {o : Options} {t u : Text} (h : layout o t = .ok u) :
    ['\r', '\n'] <:+: u ↔ o.replaceLineEndings = false ∧ ['\r', '\n'] <:+: t := by
  have hu := ((layout_eq_ok_iff o t u).mp h).2
  rw [← includes_iff_isInfix ['\r', '\n'] t]
  by_cases hkept : o.replaceLineEndings = false ∧ includes ['\r', '\n'] t = true
  · have hterm : o.terminator t = ['\r', '\n'] := by
      rw [Options.terminator, hkept.1, hkept.2]
      rfl
    rw [hu, hterm]
    exact iff_of_true List.infix_append_right hkept
  · have hterm : o.terminator t = ['\n'] := by
      rw [Options.terminator, if_neg]
      simpa using hkept
    rw [hu, hterm]
    exact iff_of_false (return_notInfix_written (isTidy_outputs o t)) hkept

/-- A document is counted to have the lines that are written, however they are terminated. -/
theorem records_written {o : Options} {t : Text} {ls : List Text} (hls : ∀ l ∈ ls, IsTidy l)
    (hne : ls ≠ []) : (Text.join (o.terminator t) ls ++ o.terminator t).records = ls := by
  obtain ⟨cr, hcr, hterm⟩ := o.terminator_eq t
  have hdrop : ∀ l ∈ ls, (l ++ cr).dropReturn = l := by
    intro l hl
    rcases hcr with rfl | rfl
    · rw [List.append_nil, dropReturn_of_getLast? fun h => ?_]
      exact absurd ((hls l hl).last '\r' h) (by decide)
    · exact dropReturn_concat l
  rw [hterm, written_eq_unlines cr hne, records_unlines, flatMap_lines_eq_self, List.map_map]
  · exact (List.map_congr_left hdrop).trans (List.map_id ls)
  · refine List.forall_mem_map.mpr fun l hl => ?_
    rw [List.mem_append, not_or]
    exact ⟨(hls l hl).newline, newline_notMem_return hcr⟩

end AmbientDecls.Layout
