import AmbientDecls.Proofs.Layout.BlankLines
import AmbientDecls.Proofs.Layout.Linewise

/-!
# Indentation by depth

A line that is laid out stands at a depth that counting tells: so many units as lines above it open
a block, less those that close one, where a line that closes a block stands outside of it. What
stands at the ends of its own lines never matters to a document (`indentation_by_depth`).
-/

namespace AmbientDecls.Layout

open Text

/-- The line at place `i` is written as `written`: its trimmed text behind units, one for each line
above that opens a block less those that close one, itself included if it is code, and behind a
space if it goes on with a comment by an asterisk. -/
def IsIndented (unit : Text) (ls : List Text) (i : Nat) (raw written : Text) : Prop :=
  ∃ d, openings ls i = closings ls (if IsCode (ls.take i) raw then i + 1 else i) + d ∧
    written = (List.replicate d unit).flatten ++
      (if commentOpen (ls.take i) = true ∧ ['*'] <+: raw.trim then [' '] else []) ++ raw.trim

/-- The lines that are not blank, each with its place. -/
def placesFrom (n : Nat) (ls : List Text) : List (Text × Nat) :=
  (ls.zipIdx n).filter fun line => line.1.trim ≠ []

def nonblank (ls : List Text) : List Text := ls.filter fun l => l.trim ≠ []

lemma placesFrom_cons_blank {raw : Text} (h : raw.trim = []) (n : Nat) (ls : List Text) :
    placesFrom n (raw :: ls) = placesFrom (n + 1) ls := by
  simp [placesFrom, List.zipIdx_cons, h]

lemma placesFrom_cons_text {raw : Text} (h : raw.trim ≠ []) (n : Nat) (ls : List Text) :
    placesFrom n (raw :: ls) = (raw, n) :: placesFrom (n + 1) ls := by
  simp [placesFrom, List.zipIdx_cons, h]

lemma nonblank_append (ls ms : List Text) : nonblank (ls ++ ms) = nonblank ls ++ nonblank ms := by
  simp [nonblank]

namespace Cursor

variable {unit : Text} {s e : Cursor} {ls : List Text} {n : Nat} {raw : Text}

/-- A line is written at the depth that counting tells. -/
lemma Tracks.isIndented (h : Tracks ls n s) (hn : ls[n]? = some raw) (hne : raw.trim ≠ [])
    (hf : ¬((s.line raw.trim).closes && s.depth == 0) = true) :
    IsIndented unit ls n raw (indented unit (s.here (s.line raw.trim)) (s.line raw.trim)) := by
  have hdepth := h.depth
  have hsucc := closings_succ hn
  have hcode := isCode_iff h.inComment hne
  have hcloses := closes_iff h.inComment hne
  refine ⟨s.here (s.line raw.trim), ?_, ?_⟩
  · by_cases hc : Closes (ls.take n) raw
    · have hpos : s.depth ≠ 0 := by
        intro hd
        apply hf
        simp [hcloses.mpr hc, hd]
      rw [here, if_pos (hcloses.mpr hc), if_pos hc.1]
      rw [if_pos hc] at hsucc
      omega
    · rw [here, if_neg (mt hcloses.mp hc)]
      rw [if_neg hc] at hsucc
      split <;> omega
  · have hpad : (s.line raw.trim).pad =
        if commentOpen (ls.take n) = true ∧ ['*'] <+: raw.trim then [' '] else [] := by
      rw [pad_line, h.inComment]
      simp only [Bool.and_eq_true, beq_iff_eq, List.singleton_prefix_iff_head?_eq_some]
    rw [indented, hpad]
    rfl

lemma nonblank_emit (hu : IsBlankText unit) (hne : raw.trim ≠ []) (s : Cursor) :
    nonblank (s.emit unit raw) =
      [indented unit (s.here (s.line raw.trim)) (s.line raw.trim)] := by
  have hline : nonblank [indented unit (s.here (s.line raw.trim)) (s.line raw.trim)] =
      [indented unit (s.here (s.line raw.trim)) (s.line raw.trim)] := by
    simp [nonblank, trim_indented_line hu s raw, hne]
  rw [emit_eq hne, nonblank_append, hline]
  split
  · rfl
  · rfl

/-- A pass indents every line by its depth. -/
theorem forall₂_isIndented_outputs (hu : IsBlankText unit) {above below : List Text}
    (hs : Tracks (above ++ below) above.length s) (h : s.run below = some e) :
    List.Forall₂ (fun line => IsIndented unit (above ++ below) line.2 line.1)
      (placesFrom above.length below) (nonblank (s.outputs unit below)) := by
  induction below generalizing above s with
  | nil => exact .nil
  | cons raw below ih =>
    obtain ⟨m, hadv, hrun⟩ := Option.bind_eq_some_iff.mp (run_cons s raw below ▸ h)
    have hget : (above ++ raw :: below)[above.length]? = some raw := by simp
    have hm := hs.advance hget hadv
    have hlines : above ++ raw :: below = (above ++ [raw]) ++ below := by simp
    have hlength : above.length + 1 = (above ++ [raw]).length := by simp
    have hrest : List.Forall₂ (fun line => IsIndented unit (above ++ raw :: below) line.2 line.1)
        (placesFrom (above.length + 1) below) (nonblank (m.outputs unit below)) := by
      rw [hlines, hlength] at hm ⊢
      exact ih hm hrun
    rw [outputs_cons_of_advance hadv, nonblank_append]
    by_cases hne : raw.trim = []
    · rw [placesFrom_cons_blank hne, emit_blank hne]
      exact hrest
    · obtain ⟨hf, -⟩ := next_of_advance hne hadv
      rw [placesFrom_cons_text hne, nonblank_emit hu hne]
      exact .cons (hs.isIndented hget hne hf) hrest

end Cursor

/-- The second line has the same text as the first between other blank characters. -/
def Remargins (l l' : Text) : Prop :=
  ∃ a b a' b' text, IsBlankText a ∧ IsBlankText b ∧ IsBlankText a' ∧ IsBlankText b' ∧
    l = a ++ text ++ b ∧ l' = a' ++ text ++ b'

lemma Remargins.trim_eq {l l' : Text} (h : Remargins l l') : l.trim = l'.trim := by
  obtain ⟨a, b, a', b', text, ha, hb, ha', hb', rfl, rfl⟩ := h
  rw [trim_append_blank _ hb, trim_blank_append ha, trim_append_blank _ hb', trim_blank_append ha']

lemma remargins_iff {l l' : Text} : Remargins l l' ↔ l.trim = l'.trim := by
  constructor
  · exact Remargins.trim_eq
  · intro h
    obtain ⟨a, b, ha, hb, hl⟩ := exists_surrounding l
    obtain ⟨a', b', ha', hb', hl'⟩ := exists_surrounding l'
    exact ⟨a, b, a', b', l.trim, ha, hb, ha', hb', hl, h ▸ hl'⟩

lemma forall₂_remargins_iff {ls ls' : List Text} :
    List.Forall₂ Remargins ls ls' ↔ ls.map Text.trim = ls'.map Text.trim := by
  have hmap : List.Forall₂ (· = ·) (ls.map Text.trim) (ls'.map Text.trim) ↔
      List.Forall₂ (fun l l' => l.trim = l'.trim) ls ls' := by
    rw [List.forall₂_map_left_iff, List.forall₂_map_right_iff]
  have hrel : Remargins = fun l l' => l.trim = l'.trim := by
    funext l l'
    exact propext remargins_iff
  rw [hrel, ← hmap, List.forall₂_eq_eq_eq]

/-- Lines are classified by their trimmed texts alone. -/
lemma classify_of_remargins {ls ls' : List Text} (h : List.Forall₂ Remargins ls ls') (n : Nat)
    (b c : Bool) : classify n b c ls = classify n b c ls' := by
  induction h generalizing n b c with
  | nil => rfl
  | @cons raw raw' rest rest' hraw _ ih =>
    have ht := hraw.trim_eq
    by_cases hne : raw.trim = []
    · rw [classify_cons_blank hne, classify_cons_blank (ht ▸ hne), ih]
    · rw [classify_cons_text hne, classify_cons_text (ht ▸ hne), ih, ht]

/-- Whether a document can be laid out, and if not why. -/
def verdict (o : Options) (t : Text) : Except Fault Unit := (layout o t).map fun _ => ()

/-- Each line of a document that is laid out stands at its depth, and no more depends on the blank
characters at the ends of the document's own lines than its terminator, if that is kept. -/
theorem indentation_by_depth (o : Options) (t : Text) :
    (∀ u, layout o t = .ok u →
      List.Forall₂ (fun line => IsIndented o.unit t.lines line.2 line.1) (placesFrom 0 t.lines)
        (nonblank u.records)) ∧
    ∀ t', List.Forall₂ Remargins t.lines t'.lines →
      verdict o t = verdict o t' ∧ (o.replaceLineEndings = true → layout o t = layout o t') := by
  constructor
  · intro u h
    obtain ⟨⟨s, hs, -⟩, hu⟩ := (layout_eq_ok_iff o t u).mp h
    have hstart : Cursor.Tracks ([] ++ t.lines) 0 .start := ⟨rfl, rfl⟩
    have hlaw := Cursor.forall₂_isIndented_outputs o.isBlankText_unit hstart hs
    have htidy : ∀ l ∈ Cursor.start.outputs o.unit t.lines, IsTidy l := fun l hl =>
      isTidy_of_mem_outputs o.newline_notMem_unit (fun _ => newline_notMem_of_mem_lines) hl
    have hrecords : nonblank u.records = nonblank (Cursor.start.outputs o.unit t.lines) := by
      by_cases hnil : Cursor.start.outputs o.unit t.lines = []
      · -- Nothing is written but a terminator, behind an empty line.
        obtain ⟨cr, rfl | rfl, hterm⟩ := o.terminator_eq t
        · rw [hu, hnil, hterm]
          rfl
        · rw [hu, hnil, hterm]
          rfl
      · rw [hu, records_written htidy hnil]
    rw [hrecords]
    exact hlaw
  · intro t' h
    have hlines : linesOf t = linesOf t' := classify_of_remargins h 1 false false
    constructor
    · unfold verdict layout
      rw [hlines]
      cases place 0 (linesOf t') with
      | error f => rfl
      | ok placed => rfl
    · intro hr
      have hterm : o.terminator t = o.terminator t' := by simp [Options.terminator, hr]
      rw [layout, layout, hlines, hterm]

/-- A comment below an opening line, a line that closes a block and opens another, and the same
document with other margins and terminators. -/
theorem indentation_by_depth_comment :
    let t : Text := " a \x7b\n// x\n/* y \x7b\n* z\nw */\n\n\x7d else \x7b\n\tb\n\x7d\n".toList
    let t' : Text := "a \x7b \n  // x\r\n/* y \x7b\n\t* z\nw */\n \n\x7d else \x7b\nb\n  \x7d\n ".toList
    let u : Text :=
      "a \x7b\n    // x\n    /* y \x7b\n     * z\n    w */\n\x7d else \x7b\n    b\n\x7d\n".toList
    let o : Options := { replaceLineEndings := true }
    layout o t = .ok u ∧
      List.Forall₂ (fun line => IsIndented o.unit t.lines line.2 line.1) (placesFrom 0 t.lines)
        (nonblank u.records) ∧
      List.Forall₂ Remargins t.lines t'.lines ∧ verdict o t = verdict o t' ∧
      layout o t' = .ok u := by
  intro t t' u o
  have hlaidOut : layout o t = .ok u := by decide +kernel
  have hmargins : List.Forall₂ Remargins t.lines t'.lines :=
    forall₂_remargins_iff.mpr (by decide +kernel)
  obtain ⟨hindented, hsame⟩ := indentation_by_depth o t
  obtain ⟨hverdict, hlayout⟩ := hsame t' hmargins
  exact ⟨hlaidOut, hindented u hlaidOut, hmargins, hverdict, (hlayout rfl).symm.trans hlaidOut⟩

end AmbientDecls.Layout
