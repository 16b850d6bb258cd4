import AmbientDecls.Proofs.DocComment.Steps
import AmbientDecls.Proofs.Text.Endings
import Mathlib.Data.List.Forall2

/-!
# Free text in comments

Free text is put into a comment line by line, and nothing of it is lost: the lines of the text are
the lines of the comment, and turning escaped end marks back gives what was written
(`unescape_escape`). How the lines of the text are terminated leaves no trace
(`text_of_addsReturns`).
-/

namespace AmbientDecls.DocComment

open Text

/-- Removes the backslash from every escaped end mark. -/
def unescape : Text → Text
  | '*' :: '\\' :: '/' :: rest => '*' :: '/' :: unescape rest
  | c :: rest => c :: unescape rest
  | [] => []

lemma unescape_cons {c : Char} {t : Text} (h : ¬['*', '\\', '/'] <+: c :: t) :
    unescape (c :: t) = c :: unescape t := by
  refine unescape.eq_2 c t fun rest hc ht => h ?_
  rw [hc, ht]
  exact List.prefix_append ['*', '\\', '/'] rest

lemma prefix_of_prefix_escape {c : Char} {t : Text} (h : ['*', '\\', '/'] <+: c :: escape t) :
    ['*', '\\', '/'] <+: c :: t := by
  obtain ⟨rest, h⟩ := h
  obtain ⟨rfl, hescape⟩ := List.cons.inj h
  have hhead := head?_escape t
  rw [← hescape] at hhead
  obtain ⟨u, rfl⟩ := List.head?_eq_some_iff.mp hhead.symm
  have hrest : '/' :: rest = escape u := (List.cons.inj hescape).2
  have hhead' := head?_escape u
  rw [← hrest] at hhead'
  obtain ⟨v, rfl⟩ := List.head?_eq_some_iff.mp hhead'.symm
  exact List.prefix_append ['*', '\\', '/'] v

/-- A text without escaped end marks gets back the end marks that were escaped in it. -/
theorem unescape_escape {t : Text} (h : ¬['*', '\\', '/'] <:+: t) : unescape (escape t) = t := by
  fun_induction escape t with
  | case1 rest ih =>
    have hrest : ¬['*', '\\', '/'] <:+: rest := fun hi =>
      h (hi.trans (List.suffix_append ['*', '/'] rest).isInfix)
    rw [unescape, ih hrest]
  | case2 c rest hc ih =>
    have hrest : ¬['*', '\\', '/'] <:+: rest := fun hi =>
      h (hi.trans (List.suffix_cons c rest).isInfix)
    have hprefix : ¬['*', '\\', '/'] <+: c :: escape rest := fun hp =>
      h (prefix_of_prefix_escape hp).isInfix
    rw [unescape_cons hprefix, ih hrest]
  | case3 => rfl

lemma text_append_newline (d : DocComment) (a b : Text) :
    d.text (a ++ '\n' :: b) = (d.text a).text b := by
  rw [text, text, text, lines_append_newline, List.map_append, List.append_assoc]

lemma map_dropReturn_of_forall₂ {ls ms : List Text}
    (h : List.Forall₂ (fun l m => m = l ∨ m = l ++ ['\r']) ls ms)
    (hls : ∀ l ∈ ls, ¬['\r'] <:+ l) : ms.map Text.dropReturn = ls.map Text.dropReturn := by
  induction h with
  | nil => rfl
  | @cons l m ls ms hlm _ ih =>
    rw [List.forall_mem_cons, List.singleton_suffix_iff_getLast?_eq_some] at hls
    have hline : m.dropReturn = l.dropReturn := by
      rcases hlm with rfl | rfl
      · rfl
      · rw [dropReturn_concat, dropReturn_of_getLast? hls.1]
    rw [List.map_cons, List.map_cons, hline, ih hls.2]

/-- Free text comes to the same comment with either line terminator. -/
theorem text_of_addsReturns {t u : Text} (h : AddsReturns t u) (ht : ∀ l ∈ t.lines, ¬['\r'] <:+ l)
    (d : DocComment) : d.text u = d.text t := by
  rw [DocComment.mk.injEq, lines_text, lines_text, map_dropReturn_of_forall₂ h.lines ht]

lemma forall₂_unescape (t : Text) :
    List.Forall₂
      (fun piece line : Text => ¬['*', '\\', '/'] <:+: piece → unescape line = piece.dropReturn)
      t.lines ((t.lines.map Text.dropReturn).map escape) := by
  rw [List.map_map, List.forall₂_map_right_iff, List.forall₂_same]
  intro piece _ h
  exact unescape_escape fun hi => h (hi.trans (dropReturn_isPrefix piece).isInfix)

/-! ### Written lines -/

/-- A piece as it stands in the written block. -/
def IsWrittenPiece (indent piece line : Text) : Prop :=
  piece = [] ∧ line = indent ++ " *".toList ∨
    piece ≠ [] ∧ line = indent ++ " * ".toList ++ escape piece

lemma isWrittenPiece_renderLine (indent piece : Text) :
    IsWrittenPiece indent piece (renderLine indent (escape piece)) := by
  cases piece with
  | nil => exact .inl ⟨rfl, rfl⟩
  | cons c t =>
    have hne : (escape (c :: t)).isEmpty = false := by
      obtain ⟨u, hu⟩ := List.head?_eq_some_iff.mp (head?_escape (c :: t))
      rw [hu]
      rfl
    rw [renderLine, hne]
    exact .inr ⟨List.cons_ne_nil c t, rfl⟩

lemma forall₂_isWrittenPiece (steps : List Step) (indent : Text) :
    List.Forall₂ (IsWrittenPiece indent) (steps.flatMap Step.pieces)
      ((ofSteps steps).lines.map (renderLine indent)) := by
  rw [lines_ofSteps, List.map_map, List.forall₂_map_right_iff, List.forall₂_same]
  exact fun piece _ => isWrittenPiece_renderLine indent piece

lemma newline_notMem_pieces {steps : List Step} (h : ∀ l, Step.line l ∉ steps) :
    ∀ piece ∈ steps.flatMap Step.pieces, '\n' ∉ piece := by
  intro piece hpiece
  obtain ⟨step, hstep, hpiece⟩ := List.mem_flatMap.mp hpiece
  cases step with
  | text t =>
    obtain ⟨l, hl, rfl⟩ := List.mem_map.mp hpiece
    exact fun hn => newline_notMem_of_mem_lines hl ((dropReturn_isPrefix l).mem hn)
  | line l => exact absurd hstep (h l)
  | blank =>
    rw [List.mem_singleton.mp hpiece]
    exact List.not_mem_nil

lemma lines_written {d : DocComment} (hd : d.EscapedFrom ('\n' ∉ ·)) {indent : Text}
    (hn : '\n' ∉ indent) : (d.written indent).lines = d.render indent ++ [[]] := by
  rw [written, lines_unlines, flatMap_lines_eq_self (hd.newline_notMem_render hn)]

/-- Free text goes into a comment line by line: it can be put in in one step or in several, with
either line terminator, and unless it has escaped end marks itself, each of its lines can be read
back from the comment. Steps of free text and empty lines are written as one line for each piece. -/
theorem text_line_by_line (d : DocComment) :
    (∀ a b : Text, d.text (a ++ '\n' :: b) = (d.text a).text b) ∧
    (∀ t : Text, (∀ piece ∈ t.lines, ¬['\r'] <:+ piece) → d.text t.withReturns = d.text t) ∧
    (∀ t : Text, ∃ added, (d.text t).lines = d.lines ++ added ∧
      List.Forall₂
        (fun piece line : Text => ¬['*', '\\', '/'] <:+: piece → unescape line = piece.dropReturn)
        t.lines added) ∧
    ∀ (steps : List Step) (indent : Text), (∀ l, Step.line l ∉ steps) → ∃ inner,
      List.Forall₂ (IsWrittenPiece indent) (steps.flatMap Step.pieces) inner ∧
      (ofSteps steps).written indent =
        unlines ((indent ++ "/**".toList) :: inner ++ [indent ++ " */".toList]) ∧
      ('\n' ∉ indent → ((ofSteps steps).written indent).lines =
        (indent ++ "/**".toList) :: inner ++ [indent ++ " */".toList, []]) := by
  refine ⟨d.text_append_newline, fun t ht => text_of_addsReturns (addsReturns_withReturns t) ht d,
    fun t => ⟨_, d.lines_text t, forall₂_unescape t⟩, fun steps indent h => ?_⟩
  have hescaped := escapedFrom_ofSteps (newline_notMem_pieces h)
  refine ⟨(ofSteps steps).lines.map (renderLine indent), forall₂_isWrittenPiece steps indent, rfl,
    fun hn => ?_⟩
  rw [lines_written hescaped hn, render, List.append_assoc]
  rfl

/-- Free text with end marks in it, put into a comment that has one already. -/
theorem text_line_by_line_marks :
    let d := ofSteps [.line "*/".toList]
    let t : Text := "**/ \\/\n\n*//".toList
    let piece : Text := "*/*/ *\\\\/\r".toList
    let steps : List Step := [.text "a\r\n*/".toList, .blank]
    (∀ piece ∈ t.lines, ¬['\r'] <:+ piece) ∧ d.text t.withReturns = d.text t ∧
      (∃ line, (d.text piece).lines = d.lines ++ [line] ∧
        ¬['*', '\\', '/'] <:+: piece ∧ unescape line = "*/*/ *\\\\/".toList) ∧
      (∀ l, Step.line l ∉ steps) ∧ '\n' ∉ ['\t'] ∧ ∃ inner,
        List.Forall₂ (IsWrittenPiece ['\t']) (steps.flatMap Step.pieces) inner ∧
        ((ofSteps steps).written ['\t']).lines =
          "\t/**".toList :: inner ++ ["\t */".toList, []] := by
  intro d t piece steps
  obtain ⟨-, hreturns, hpieces, hsteps⟩ := text_line_by_line d
  have ht : ∀ piece ∈ t.lines, ¬['\r'] <:+ piece := by decide
  have hnoLine : ∀ l, Step.line l ∉ steps := by simp [steps]
  obtain ⟨added, hadded, hread⟩ := hpieces piece
  obtain ⟨inner, hinner, -, hlines⟩ := hsteps steps ['\t'] hnoLine
  have hone : ∃ line, added = [line] ∧ unescape line = "*/*/ *\\\\/".toList := by
    cases hread with
    | cons hline hnil =>
      cases hnil
      exact ⟨_, rfl, hline (by decide)⟩
  obtain ⟨line, rfl, hline⟩ := hone
  exact ⟨ht, hreturns t ht, ⟨line, hadded, by decide, hline⟩, hnoLine, by decide, inner, hinner,
    hlines (by decide)⟩

end AmbientDecls.DocComment
