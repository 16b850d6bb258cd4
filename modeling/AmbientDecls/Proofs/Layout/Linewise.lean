import AmbientDecls.Proofs.Layout.Comments
import AmbientDecls.Proofs.Layout.Written

/-!
# Layout line for line

A document is laid out line for line when every line can be told in advance its depth and whether
it continues a comment, and no blank line is dropped. Lines with such marks are passed over piece by
piece (`Cursor.Passes`). An empty line is not written where it stands but before the next line, so
between two pieces it is pending.
-/

namespace AmbientDecls.Layout

open Text

/-- What decides the indentation of a line. -/
structure Mark where
  /-- The number of blocks around the line. -/
  depth : Nat
  /-- Whether the line continues a comment. -/
  continues : Bool
deriving DecidableEq, Repr

/-- The line as it is laid out under its mark: an empty line stays empty. -/
def Mark.laidOut (unit : Text) (mark : Mark) (raw : Text) : Text :=
  if raw = [] then []
  else
    (List.replicate mark.depth unit).flatten ++ (if mark.continues then [' '] else []) ++ raw.trim

namespace Cursor

/-- The empty line that is not written yet. -/
def pending (s : Cursor) : List Text := if s.afterBlank && s.room then [[]] else []

/-- Marked lines take the cursor from `s` to `e` and are laid out under their marks, one by one. -/
structure Passes (unit : Text) (s : Cursor) (ls : List (Mark × Text)) (e : Cursor) : Prop where
  run : s.run (ls.map Prod.snd) = some e
  outputs : s.outputs unit (ls.map Prod.snd) ++ e.pending =
    s.pending ++ ls.map fun l => l.1.laidOut unit l.2

variable {unit : Text} {s m e : Cursor}

lemma Passes.nil : Passes unit s [] s := ⟨rfl, (List.append_nil s.pending).symm⟩

/-- What is pending behind one piece is written with the next. -/
theorem Passes.append {ls more : List (Mark × Text)} (h : Passes unit s ls m)
    (h' : Passes unit m more e) : Passes unit s (ls ++ more) e where
  run := by rw [List.map_append, run_append_of_run h.run, h'.run]
  outputs := by
    rw [List.map_append, outputs_append_of_run h.run, List.append_assoc, h'.outputs,
      ← List.append_assoc, h.outputs, List.map_append, List.append_assoc]

lemma passes_blank (mark : Mark) (hb : s.afterBlank = false) (hr : s.room = true) :
    Passes unit s [(mark, [])] { s with afterBlank := true } where
  run := run_cons_of_advance (advance_blank rfl s) []
  outputs := by
    have ht : Text.trim [] = [] := rfl
    rw [List.map_singleton, outputs_cons_of_advance (advance_blank ht s), emit_blank ht, pending,
      pending, hb, hr]
    rfl

/-- A line that is not blank is laid out under its mark if that is where the cursor puts it. -/
theorem passes_line {mark : Mark} {raw : Text} (hne : raw.trim ≠ [])
    (hf : ¬((s.line raw.trim).closes && s.depth == 0) = true)
    (hk : (s.line raw.trim).closes = true → s.afterBlank = false)
    (hd : s.here (s.line raw.trim) = mark.depth)
    (hp : (s.line raw.trim).pad = if mark.continues then [' '] else []) :
    Passes unit s [(mark, raw)] (s.next raw.trim) where
  run := run_cons_of_advance (advance_text hne hf) []
  outputs := by
    have hraw : raw ≠ [] := by
      rintro rfl
      exact hne rfl
    have hl : indented unit (s.here (s.line raw.trim)) (s.line raw.trim) = mark.laidOut unit raw := by
      rw [indented, hd, hp, Mark.laidOut, if_neg hraw]
      rfl
    have hpend : (if s.afterBlank && s.room && ! (s.line raw.trim).closes then [[]] else []) =
        s.pending := by
      cases hc : (s.line raw.trim).closes with
      | false =>
        rw [Bool.not_false, Bool.and_true]
        rfl
      | true =>
        rw [pending, hk hc]
        rfl
    have hemit : s.emit unit raw = s.pending ++ [mark.laidOut unit raw] := by
      rw [emit, if_neg hne, ← hl, ← hpend]
    have hend : (s.next raw.trim).pending = [] := rfl
    rw [List.map_singleton, outputs_cons_of_advance (advance_text hne hf), hemit, hend,
      List.append_nil]
    exact List.append_nil _

/-! ### Comments -/

lemma pad_line (s : Cursor) (t : Text) :
    (s.line t).pad = if s.inComment && t.head? == some '*' then [' '] else [] := by
  have hr : ((roleOf s.inComment t).1 == .inner) = s.inComment := by
    cases s.inComment with
    | true => rfl
    | false =>
      rw [roleOf, if_neg Bool.false_ne_true]
      split
      · rfl
      · split <;> rfl
  rw [Line.pad, line, hr]

/-- A line that closes no block stands at the depth of the cursor. -/
theorem passes_of_closes {raw : Text} (hne : raw.trim ≠ []) {continues : Bool}
    (hc : (s.line raw.trim).closes = false)
    (hp : (s.inComment && raw.trim.head? == some '*') = continues) :
    Passes unit s [(⟨s.depth, continues⟩, raw)] (s.next raw.trim) := by
  refine passes_line hne ?_ (fun h => absurd (hc.symm.trans h) Bool.false_ne_true) ?_ ?_
  · rw [hc, Bool.false_and]
    exact Bool.false_ne_true
  · rw [here, hc]
    rfl
  · rw [pad_line, hp]

lemma passes_of_role {raw t : Text} (ht : raw.trim = t) (hne : t ≠ []) {role : Role} {inside : Bool}
    (hr : roleOf s.inComment t = (role, inside)) (hcode : role ≠ .code) {continues : Bool}
    (hp : (s.inComment && t.head? == some '*') = continues) :
    Passes unit s [(⟨s.depth, continues⟩, raw)]
      ⟨s.depth, inside, false, t.getLast? != some '\x7b'⟩ := by
  subst ht
  have hcode' : (roleOf s.inComment raw.trim).1 ≠ .code := by rwa [hr]
  have h : Passes unit s [(⟨s.depth, continues⟩, raw)] (s.next raw.trim) :=
    passes_of_closes hne (closes_of_role hcode') hp
  rwa [next_of_role hcode', hr] at h

lemma passes_inner_line (unit : Text) (hs : s.inComment = true) {raw : Text}
    (hi : ¬['*', '/'] <:+: raw) {t : Text} (ht : raw.trim = '*' :: t) :
    ∃ e, Passes unit s [(⟨s.depth, true⟩, raw)] e ∧ e.depth = s.depth ∧ e.inComment = true := by
  have hr : roleOf s.inComment ('*' :: t) = (.inner, true) := by
    rw [← ht]
    exact roleOf_inner hs hi
  exact ⟨_, passes_of_role ht (List.cons_ne_nil _ _) hr (by decide) (by rw [hs]; rfl), rfl, rfl⟩

lemma passes_inner (unit : Text) (hs : s.inComment = true) {raws : List Text}
    (h : ∀ raw ∈ raws, ¬['*', '/'] <:+: raw ∧ ∃ t, raw.trim = '*' :: t) :
    ∃ e, Passes unit s (raws.map fun raw => (⟨s.depth, true⟩, raw)) e ∧
      e.depth = s.depth ∧ e.inComment = true := by
  induction raws generalizing s with
  | nil => exact ⟨s, .nil, rfl, hs⟩
  | cons raw rest ih =>
    rw [List.forall_mem_cons] at h
    obtain ⟨⟨hi, t, ht⟩, hrest⟩ := h
    obtain ⟨m, hm, hmd, hmc⟩ := passes_inner_line unit hs hi ht
    obtain ⟨e, he, hed, hec⟩ := ih hmc hrest
    rw [hmd] at he hed
    exact ⟨e, hm.append he, hed, hec⟩

end Cursor

/-- A document whose lines are passed over to the end of all blocks is laid out line for line. -/
theorem layout_of_passes {o : Options} {raws : List Text} {ls : List (Mark × Text)} {e : Cursor}
    (hls : ls.map Prod.snd = (raws.flatMap Text.lines).map dropReturn) (hne : ls ≠ [])
    (h : Cursor.Passes o.unit .start ls e) (hd : e.depth = 0) (hb : e.afterBlank = false) :
    ∃ out, layout o (unlines raws) = .ok out ∧
      out.records = ls.map fun l => l.1.laidOut o.unit l.2 := by
  have hrun : Cursor.start.run (raws.flatMap Text.lines) = some e := by
    rw [← Cursor.run_map_dropReturn, ← hls, h.run]
  have hend : e.pending = [] := by
    rw [Cursor.pending, hb]
    rfl
  have hout : Cursor.start.outputs o.unit (raws.flatMap Text.lines) =
      ls.map fun l => l.1.laidOut o.unit l.2 := by
    have ho := h.outputs
    rw [hls, Cursor.outputs_map_dropReturn, hend, List.append_nil] at ho
    exact ho
  -- Behind the last terminator there is one more line, which is blank.
  have hlast : e.advance [] = some { e with afterBlank := true } := Cursor.advance_blank rfl e
  have hrun' : Cursor.start.run (unlines raws).lines = some { e with afterBlank := true } := by
    rw [lines_unlines, Cursor.run_append_of_run hrun, Cursor.run_cons_of_advance hlast,
      Cursor.run_nil]
  have hout' : Cursor.start.outputs o.unit (unlines raws).lines =
      ls.map fun l => l.1.laidOut o.unit l.2 := by
    rw [lines_unlines, Cursor.outputs_append_of_run hrun, Cursor.outputs_cons_of_advance hlast,
      hout]
    exact List.append_nil _
  refine ⟨_, (layout_eq_ok_iff o _ _).mpr ⟨⟨_, hrun', hd⟩, rfl⟩, ?_⟩
  rw [hout']
  refine records_written (fun l hl => ?_) fun hnil => hne (List.map_eq_nil_iff.mp hnil)
  rw [← hout'] at hl
  exact isTidy_outputs o _ l hl

end AmbientDecls.Layout

namespace AmbientDecls

open Text Layout

/-- The lines of a written comment with their marks: all but the first continue it. -/
def DocComment.marked (depth : Nat) (indent : Text) (d : DocComment) : List (Mark × Text) :=
  (⟨depth, false⟩, indent ++ "/**".toList) ::
    (d.lines.map (DocComment.renderLine indent)).map (fun l => (⟨depth, true⟩, l.dropReturn)) ++
    [(⟨depth, true⟩, indent ++ " */".toList)]

section Block

variable {indent : Text} (hindent : IsBlankText indent) {d : DocComment}
  (hd : d.EscapedFrom ('\n' ∉ ·))

include hd

lemma DocComment.EscapedFrom.map_snd_marked (hn : '\n' ∉ indent) (depth : Nat) :
    (d.marked depth indent).map Prod.snd = ((d.render indent).flatMap Text.lines).map dropReturn := by
  have hopen : (indent ++ "/**".toList).dropReturn = indent ++ "/**".toList :=
    dropReturn_append indent (by decide) (by decide)
  have hclose : (indent ++ " */".toList).dropReturn = indent ++ " */".toList :=
    dropReturn_append indent (by decide) (by decide)
  rw [flatMap_lines_eq_self (hd.newline_notMem_render hn), DocComment.render, List.map_append,
    List.map_cons, List.map_singleton, hopen, hclose, DocComment.marked, List.map_append, List.map_cons,
    List.map_map, List.map_map, List.map_map]
  rfl

include hindent

/-- A written comment is laid out under its marks, at the depth of the cursor. -/
theorem Layout.Cursor.passes_block {unit : Text} {s : Cursor} (hs : s.inComment = false) :
    Cursor.Passes unit s (d.marked s.depth indent) ⟨s.depth, false, false, true⟩ := by
  have hopen : Cursor.Passes unit s [(⟨s.depth, false⟩, indent ++ "/**".toList)]
      ⟨s.depth, true, false, true⟩ := by
    have hr : roleOf s.inComment "/**".toList = (.comment, true) := by
      rw [hs]
      rfl
    exact Cursor.passes_of_role (trim_blank_append hindent _) (by decide) hr (by decide)
      (by rw [hs]; rfl)
  have hinner : ∀ raw ∈ (d.lines.map (DocComment.renderLine indent)).map dropReturn,
      ¬['*', '/'] <:+: raw ∧ ∃ t, raw.trim = '*' :: t := by
    refine List.forall_mem_map.mpr (List.forall_mem_map.mpr fun l hl => ?_)
    rw [trim_dropReturn]
    refine ⟨fun hi => ?_, DocComment.exists_trim_renderLine hindent l⟩
    exact DocComment.end_notInfix_renderLine hindent (hd.end_notInfix hl)
      (hi.trans (dropReturn_isPrefix _).isInfix)
  have hinside : (⟨s.depth, true, false, true⟩ : Cursor).inComment = true := rfl
  obtain ⟨m, hm, hmd, hmc⟩ := Cursor.passes_inner unit hinside hinner
  have hclose : Cursor.Passes unit m [(⟨s.depth, true⟩, indent ++ " */".toList)]
      ⟨s.depth, false, false, true⟩ := by
    have ht : trim (indent ++ " */".toList) = "*/".toList := trim_blank_append hindent _
    have hr : roleOf m.inComment "*/".toList = (.inner, false) := by
      rw [hmc]
      rfl
    have hdepth : s.depth = m.depth := hmd.symm
    rw [hdepth]
    exact Cursor.passes_of_role ht (by decide) hr (by decide) (by rw [hmc]; rfl)
  have h := (hopen.append hm).append hclose
  rwa [List.map_map] at h

end Block

end AmbientDecls
