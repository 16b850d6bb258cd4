import AmbientDecls.Proofs.Layout.CodeLines
import AmbientDecls.Proofs.Layout.Written

/-!
# What laying out changes

Laying out a document changes its white space and nothing else: the lines that are not blank are the
same, trimmed, and in the same order. Of the blank lines between two of them one is kept, as an
empty line, unless the first ends in an opening brace or the second closes a block, and none is kept
at the ends (`layout_changes_white_space`).
-/

namespace AmbientDecls.Layout

open Text

/-- The lines that are not blank, trimmed. -/
def contents (ls : List Text) : List Text := (ls.map Text.trim).filter (· ≠ [])

@[simp] lemma contents_nil : contents [] = [] := rfl

@[simp] lemma contents_append (ls ms : List Text) :
    contents (ls ++ ms) = contents ls ++ contents ms := by
  simp [contents]

lemma contents_cons_blank {l : Text} (h : l.trim = []) (ls : List Text) :
    contents (l :: ls) = contents ls := by
  simp [contents, h]

lemma contents_cons_text {l : Text} (h : l.trim ≠ []) (ls : List Text) :
    contents (l :: ls) = l.trim :: contents ls := by
  simp [contents, h]

/-- The empty lines that are kept between `x`, which stands below `above`, and `y`, for the blank
lines `gap` that stand between them. -/
def keptBetween (above : List Text) (x : Text) (gap : List Text) (y : Text) : List Text :=
  if gap ≠ [] ∧ ¬['{'] <:+ x.trim ∧ ¬Closes (above ++ x :: gap) y then [[]] else []

/-- The lines of `out` are those of `ls` up to white space. -/
structure Respaces (ls out : List Text) : Prop where
  contents_eq : contents out = contents ls
  between : ∀ above x gap y below, ls = above ++ x :: (gap ++ y :: below) →
    x.trim ≠ [] → (∀ g ∈ gap, g.trim = []) → y.trim ≠ [] →
    ∃ above' x' y' below', out = above' ++ x' :: (keptBetween above x gap y ++ y' :: below') ∧
      x'.trim = x.trim ∧ y'.trim = y.trim ∧
      contents above' = contents above ∧ contents below' = contents below
  first : ∀ l ∈ out.head?, l.trim ≠ []
  last : ∀ l ∈ out.getLast?, l.trim ≠ []
  tidy : ∀ l ∈ out, IsTidy l

namespace Cursor

variable {unit : Text} {s e : Cursor}

lemma trim_indented_line (hu : IsBlankText unit) (s : Cursor) (raw : Text) :
    trim (indented unit (s.here (s.line raw.trim)) (s.line raw.trim)) = raw.trim := by
  have h := trim_indented (b := []) hu (l := s.line raw.trim) (isTrimmed_trim raw)
    (s.here (s.line raw.trim)) (by simp [IsBlankText])
  rwa [List.append_nil] at h

lemma contents_emit (hu : IsBlankText unit) (s : Cursor) (raw : Text) :
    contents (s.emit unit raw) = contents [raw] := by
  by_cases hne : raw.trim = []
  · rw [emit_blank hne, contents_cons_blank hne]
  · have ht := trim_indented_line hu s raw
    have hl : contents [indented unit (s.here (s.line raw.trim)) (s.line raw.trim)] = [raw.trim] := by
      rw [contents_cons_text (by rwa [ht]), ht, contents_nil]
    rw [emit_eq hne, contents_append, hl, contents_cons_text hne, contents_nil]
    split
    · rfl
    · rfl

/-- A pass writes the lines it reads, trimmed alike. -/
theorem contents_outputs (hu : IsBlankText unit) {raws : List Text} (h : s.run raws = some e) :
    contents (s.outputs unit raws) = contents raws := by
  induction raws generalizing s with
  | nil => rfl
  | cons raw rest ih =>
    rw [run_cons, Option.bind_eq_some_iff] at h
    obtain ⟨m, hadv, hrest⟩ := h
    rw [outputs_cons_of_advance hadv, contents_append, ih hrest, contents_emit hu,
      ← contents_append, List.singleton_append]

/-- Where no empty line may follow, the next line that is written is not empty. -/
lemma head?_outputs (hu : IsBlankText unit) (hs : s.room = false) {raws : List Text}
    (h : s.run raws = some e) : ∀ l ∈ (s.outputs unit raws).head?, l.trim ≠ [] := by
  induction raws generalizing s with
  | nil => exact fun l hl => nomatch hl
  | cons raw rest ih =>
    rw [run_cons, Option.bind_eq_some_iff] at h
    obtain ⟨m, hadv, hrest⟩ := h
    rw [outputs_cons_of_advance hadv]
    by_cases hne : raw.trim = []
    · rw [advance_blank hne, Option.some.injEq] at hadv
      subst hadv
      rw [emit_blank hne, List.nil_append]
      exact ih hs hrest
    · rw [emit_eq hne, hs, Bool.and_false, Bool.false_and, if_neg Bool.false_ne_true]
      intro l hl
      rw [← Option.some.inj hl, trim_indented_line hu]
      exact hne

lemma getLast?_outputs (hu : IsBlankText unit) {raws : List Text} (h : s.run raws = some e) :
    ∀ l ∈ (s.outputs unit raws).getLast?, l.trim ≠ [] := by
  induction raws generalizing s with
  | nil => exact fun l hl => nomatch hl
  | cons raw rest ih =>
    rw [run_cons, Option.bind_eq_some_iff] at h
    obtain ⟨m, hadv, hrest⟩ := h
    rw [outputs_cons_of_advance hadv]
    by_cases hnil : m.outputs unit rest = []
    · rw [hnil, List.append_nil]
      by_cases hne : raw.trim = []
      · rw [emit_blank hne]
        exact fun l hl => nomatch hl
      · intro l hl
        rw [emit_eq hne, List.getLast?_concat] at hl
        rw [← Option.some.inj hl, trim_indented_line hu]
        exact hne
    · rw [List.getLast?_append_of_ne_nil _ hnil]
      exact ih hrest

lemma run_gap {gap : List Text} (h : ∀ g ∈ gap, g.trim = []) (s : Cursor) (unit : Text) :
    ∃ m, s.run gap = some m ∧ s.outputs unit gap = [] ∧
      m.afterBlank = (s.afterBlank || ! gap.isEmpty) ∧ m.room = s.room := by
  induction gap generalizing s with
  | nil =>
    refine ⟨s, rfl, rfl, ?_, rfl⟩
    rw [List.isEmpty_nil, Bool.not_true, Bool.or_false]
  | cons g gap ih =>
    rw [List.forall_mem_cons] at h
    have hadv := advance_blank h.1 s
    obtain ⟨m, hrun, hout, hblank, hroom⟩ := ih h.2 { s with afterBlank := true }
    refine ⟨m, ?_, ?_, ?_, hroom⟩
    · rw [run_cons_of_advance hadv, hrun]
    · rw [outputs_cons_of_advance hadv, emit_blank h.1, hout, List.nil_append]
    · rw [hblank, List.isEmpty_cons, Bool.true_or, Bool.not_false, Bool.or_true]

/-- What is written before `y` is what is kept of the gap. -/
lemma emit_below_gap {above gap : List Text} {x y : Text} {g : Cursor}
    (hrun : start.run (above ++ x :: gap) = some g) (hblank : g.afterBlank = ! gap.isEmpty)
    (hroom : g.room = (x.trim.getLast? != some '{')) (hy : y.trim ≠ []) (unit : Text) :
    g.emit unit y =
      keptBetween above x gap y ++ [indented unit (g.here (g.line y.trim)) (g.line y.trim)] := by
  have hclose := closes_iff (inComment_run hrun) hy
  have hkept : (if g.afterBlank && g.room && ! (g.line y.trim).closes then ([[]] : List Text)
      else []) = keptBetween above x gap y := by
    unfold keptBetween
    refine if_congr ?_ rfl rfl
    rw [hblank, hroom, List.singleton_suffix_iff_getLast?_eq_some, ← hclose, Bool.and_eq_true,
      Bool.and_eq_true, bne_iff_ne, Bool.not_eq_true', Bool.not_eq_true',
      List.isEmpty_eq_false_iff, Bool.not_eq_true, and_assoc]
  rw [emit_eq hy, hkept]

lemma outputs_between {above gap below : List Text} {x y : Text}
    (h : start.run (above ++ x :: (gap ++ y :: below)) = some e) (hu : IsBlankText unit)
    (hx : x.trim ≠ []) (hgap : ∀ g ∈ gap, g.trim = []) (hy : y.trim ≠ []) :
    ∃ above' x' y' below',
      start.outputs unit (above ++ x :: (gap ++ y :: below)) =
        above' ++ x' :: (keptBetween above x gap y ++ y' :: below') ∧
      x'.trim = x.trim ∧ y'.trim = y.trim ∧
      contents above' = contents above ∧ contents below' = contents below := by
  rw [run_append, Option.bind_eq_some_iff] at h
  obtain ⟨s, hs, h⟩ := h
  rw [run_cons, Option.bind_eq_some_iff] at h
  obtain ⟨m, hm, h⟩ := h
  obtain ⟨-, rfl⟩ := next_of_advance hx hm
  obtain ⟨g, hgrun, hgout, hblank, hroom⟩ := run_gap hgap (s.next x.trim) unit
  rw [run_append_of_run hgrun, run_cons, Option.bind_eq_some_iff] at h
  obtain ⟨n, hn, h⟩ := h
  have hrun : start.run (above ++ x :: gap) = some g := by
    rw [run_append_of_run hs, run_cons_of_advance hm, hgrun]
  have hemit := emit_below_gap hrun hblank hroom hy unit
  have habove : contents (start.outputs unit above ++
      (if s.afterBlank && s.room && ! (s.line x.trim).closes then [[]] else [])) =
        contents above := by
    rw [contents_append, contents_outputs hu hs]
    split
    · exact List.append_nil _
    · exact List.append_nil _
  refine ⟨_, _, _, _, ?_, trim_indented_line hu s x, trim_indented_line hu g y, habove,
    contents_outputs hu h⟩
  rw [outputs_append_of_run hs, outputs_cons_of_advance hm, outputs_append_of_run hgrun, hgout,
    outputs_cons_of_advance hn, hemit, emit_eq hx]
  simp only [List.append_assoc, List.cons_append, List.nil_append]

end Cursor

lemma respaces_outputs {raws : List Text} (hraws : ∀ raw ∈ raws, '\n' ∉ raw) (o : Options)
    {e : Cursor} (h : Cursor.start.run raws = some e) :
    Respaces raws (Cursor.start.outputs o.unit raws) where
  contents_eq := Cursor.contents_outputs o.isBlankText_unit h
  between := by
    rintro above x gap y below rfl hx hgap hy
    exact Cursor.outputs_between h o.isBlankText_unit hx hgap hy
  first := Cursor.head?_outputs o.isBlankText_unit rfl h
  last := Cursor.getLast?_outputs o.isBlankText_unit h
  tidy := fun _ hl => isTidy_of_mem_outputs o.newline_notMem_unit hraws hl

/-! ### The written document -/

namespace Respaces

variable {ls out : List Text}

lemma eq_nil_iff (h : Respaces ls out) : out = [] ↔ contents ls = [] := by
  rw [← h.contents_eq]
  constructor
  · rintro rfl
    rfl
  · intro hc
    by_contra hne
    obtain ⟨l, rest, rfl⟩ := List.exists_cons_of_ne_nil hne
    rw [contents_cons_text (h.first l rfl)] at hc
    cases hc

lemma getLast?_join (h : Respaces ls out) (terminator : Text) :
    ∀ c ∈ (Text.join terminator out).getLast?, isBlank c = false := by
  induction out using List.reverseRecOn with
  | nil => exact fun c hc => nomatch hc
  | append_singleton init l _ =>
    have hne : l ≠ [] := by
      rintro rfl
      exact h.last [] (List.getLast?_concat ..) rfl
    rw [join_concat, List.getLast?_append_of_ne_nil _ hne]
    exact (h.tidy l (List.mem_append_right init (List.mem_singleton_self l))).last

end Respaces

/-- A document that is laid out is written as lines that differ from its own by white space alone,
with one terminator between each two of them and one at the end. -/
theorem layout_changes_white_space (o : Options) (t u : Text) (h : layout o t = .ok u) :
    ∃ out terminator, Respaces t.lines out ∧ (terminator = ['\n'] ∨ terminator = ['\r', '\n']) ∧
      u = Text.join terminator out ++ terminator ∧
      (∀ c ∈ (Text.join terminator out).getLast?, isBlank c = false) ∧
      (contents t.lines ≠ [] → u.records = out) ∧ (contents t.lines = [] → u = terminator) := by
  obtain ⟨⟨s, hs, -⟩, hu⟩ := (layout_eq_ok_iff o t u).mp h
  have hlines := respaces_outputs (fun _ => newline_notMem_of_mem_lines) o hs
  refine ⟨_, o.terminator t, hlines, ?_, hu, hlines.getLast?_join _, ?_, ?_⟩
  · obtain ⟨cr, rfl | rfl, hterm⟩ := o.terminator_eq t
    · exact .inl hterm
    · exact .inr hterm
  · intro hne
    rw [hu]
    exact records_written hlines.tidy (mt hlines.eq_nil_iff.mp hne)
  · intro hnil
    rw [hu, hlines.eq_nil_iff.mpr hnil]
    rfl

/-- Blank lines at both ends, below an opening brace in a comment, before a brace in a comment, and
before one that closes a block. -/
theorem layout_changes_white_space_comment :
    let t : Text := "\n a \x7b\n\n/* b \x7b\n\n c\n \n\n\x7d*/ \n\n\x7d\n\n".toList
    let u : Text := "a \x7b\n    /* b \x7b\n    c\n\n    \x7d*/\n\x7d\n".toList
    layout {} t = .ok u ∧
      ∃ out terminator, Respaces t.lines out ∧ (terminator = ['\n'] ∨ terminator = ['\r', '\n']) ∧
        u = Text.join terminator out ++ terminator ∧
        (∀ c ∈ (Text.join terminator out).getLast?, isBlank c = false) ∧
        (contents t.lines ≠ [] → u.records = out) ∧ (contents t.lines = [] → u = terminator) :=
  ⟨rfl, layout_changes_white_space {}
    "\n a \x7b\n\n/* b \x7b\n\n c\n \n\n\x7d*/ \n\n\x7d\n\n".toList _ rfl⟩

end AmbientDecls.Layout
