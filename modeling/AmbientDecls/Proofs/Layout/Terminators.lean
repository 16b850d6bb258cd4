import AmbientDecls.Proofs.Layout.Indentation
import AmbientDecls.Proofs.Text.Endings

/-!
# Line terminators

A document is laid out with one kind of line terminator. Which one depends on whether a carriage
return stands before a line feed anywhere in it, and on nothing else: what is written between the
terminators holds no line feed and ends in no blank character, so the two kinds of output differ in
their terminators alone (`layout_keeping_eq`), and carriage returns before the line feeds of the
document leave no other trace (`linesOf_of_addsReturns`).
-/

namespace AmbientDecls.Layout

open Text

/-- The options by which a document keeps its terminators. -/
def Options.keeping (o : Options) : Options := { o with replaceLineEndings := false }

/-- The options by which every line ends in a line feed. -/
def Options.replacing (o : Options) : Options := { o with replaceLineEndings := true }

lemma Options.terminator_keeping (o : Options) (t : Text) :
    o.keeping.terminator t = if ['\r', '\n'] <:+: t then ['\r', '\n'] else ['\n'] := by
  simp only [terminator, keeping, Bool.not_false, Bool.true_and, includes_iff_isInfix]

lemma Options.terminator_replacing (o : Options) (t : Text) : o.replacing.terminator t = ['\n'] := rfl

lemma newline_notMem_written (o : Options) {t : Text} {placed : List (Nat × Line)}
    (h : place 0 (linesOf t) = .ok placed) : ∀ l ∈ written o.unit placed, '\n' ∉ l := by
  have hagrees := agrees_layout t
  rw [h] at hagrees
  have hout : written o.unit placed = Cursor.start.outputs o.unit t.lines := hagrees.2 o.unit none rfl
  intro l hl
  rw [hout] at hl
  exact (isTidy_outputs o t l hl).newline

/-- Where a document keeps its terminators and has a carriage return in one of them, it is laid out
with carriage returns before all line feeds, and otherwise as if its terminators were replaced. -/
theorem layout_keeping_eq (o : Options) (t : Text) :
    layout o.keeping t =
      (layout o.replacing t).map fun u => if ['\r', '\n'] <:+: t then u.withReturns else u := by
  rw [layout, layout, o.terminator_keeping, o.terminator_replacing]
  cases hp : place 0 (linesOf t) with
  | error f => rfl
  | ok placed =>
    have hlines := newline_notMem_written o hp
    have hunit : o.keeping.unit = o.unit ∧ o.replacing.unit = o.unit := ⟨rfl, rfl⟩
    rw [hunit.1, hunit.2]
    by_cases hr : ['\r', '\n'] <:+: t
    · simp only [Except.map, if_pos hr, withReturns_join hlines]
    · simp only [Except.map, if_neg hr]

lemma forall₂_remargins_of_addsReturns {t t' : Text} (h : AddsReturns t t') :
    List.Forall₂ Remargins t.lines t'.lines := by
  have hreturn : IsBlankText ['\r'] := isBlankText_return (.inr rfl)
  refine h.lines.imp fun l m hlm => remargins_iff.mpr ?_
  rcases hlm with rfl | rfl
  · rfl
  · exact (trim_append_blank l hreturn).symm

lemma linesOf_of_addsReturns {t t' : Text} (h : AddsReturns t t') : linesOf t' = linesOf t :=
  (classify_of_remargins (forall₂_remargins_of_addsReturns h) 1 false false).symm

/-- The verdict on a document is that on its lines. -/
lemma verdict_eq_place (o : Options) (t : Text) :
    verdict o t = (place 0 (linesOf t)).map fun _ => () := by
  rw [verdict, layout]
  cases place 0 (linesOf t) with
  | error f => rfl
  | ok placed => rfl

/-- A document that keeps its terminators and one that has them replaced fail alike, and are written
alike but for a carriage return before every line feed, if one stands there anywhere in the
document. Putting more of them there changes no verdict, and nothing that is written with replaced
terminators. -/
theorem terminators_of_layout (o : Options) (t : Text) :
    layout o.keeping t =
      (layout o.replacing t).map (fun u => if ['\r', '\n'] <:+: t then u.withReturns else u) ∧
    (∀ u, layout o.replacing t = .ok u → ¬['\r', '\n'] <:+: u) ∧
    ∀ t', AddsReturns t t' →
      verdict o t' = verdict o t ∧ layout o.replacing t' = layout o.replacing t := by
  refine ⟨layout_keeping_eq o t, fun u h => ?_, fun t' h => ?_⟩
  · rw [return_infix_layout_iff h]
    rintro ⟨hkeep, -⟩
    cases hkeep
  · have hlines := linesOf_of_addsReturns h
    constructor
    · rw [verdict_eq_place, verdict_eq_place, hlines]
    · rw [layout, layout, hlines]
      rfl

/-- A document with both terminators, a line that ends in two carriage returns, one that has one
inside, and more of them put before the first, the third and the last line feed. -/
theorem terminators_of_layout_mixed :
    let t : Text := "a \x7b\n\r\nb\rc\r\r\n\x7d\n".toList
    let t' : Text := "a \x7b\r\n\r\nb\rc\r\r\r\n\x7d\r\n".toList
    let u : Text := "a \x7b\n\tb\rc\n\x7d\n".toList
    let o : Options := { convertTabsToSpaces := false }
    layout o.replacing t = .ok u ∧ layout o.keeping t = .ok u.withReturns ∧ ¬['\r', '\n'] <:+: u ∧
      AddsReturns t t' ∧ verdict o t' = verdict o t ∧ layout o.replacing t' = .ok u := by
  intro t t' u o
  have hu : layout o.replacing t = .ok u := by decide +kernel
  have hreturn : ['\r', '\n'] <:+: t := by decide
  have hadds : AddsReturns t t' :=
    .keep 'a' <| .keep ' ' <| .keep '\x7b' <| .add <| .keep '\r' <| .keep '\n' <| .keep 'b' <|
      .keep '\r' <| .keep 'c' <| .keep '\r' <| .keep '\r' <| .add <| .keep '\x7d' <| .add .nil
  obtain ⟨hkeeping, hnone, hsame⟩ := terminators_of_layout o t
  obtain ⟨hverdict, hlayout⟩ := hsame t' hadds
  refine ⟨hu, ?_, hnone u hu, hadds, hverdict, hlayout.trans hu⟩
  rw [hkeeping, hu, Except.map, if_pos hreturn]

end AmbientDecls.Layout
