import AmbientDecls.Text.Basic
import Mathlib.Data.List.Infix

/-!
# Lines and parts of texts

Splitting a text at line feeds undoes the writing of lines, and searching a text for a part is the
question whether the part is an infix. Everything about lines follows from `lines_append_newline`:
a line feed parts a text into two texts that know nothing of each other.
-/

namespace AmbientDecls.Text

lemma split_eq_splitOnP (p : Char → Bool) (t : Text) : t.split p = t.splitOnP p := by
  induction t with
  | nil => rfl
  | cons c t ih =>
    rw [List.splitOnP_cons_eq_if_modifyHead]
    cases hp : p c with
    | true => rw [split_cons_of_pos hp, ih, if_pos rfl]
    | false =>
      obtain ⟨piece, rest, ht⟩ := List.exists_cons_of_ne_nil (split_ne_nil p t)
      rw [split_cons_of_neg hp ht, ← ih, ht]
      rfl

lemma lines_eq_splitOn (t : Text) : t.lines = t.splitOn '\n' := split_eq_splitOnP _ t

/-- A line feed parts a text into two that are split on their own. -/
theorem lines_append_newline (s t : Text) : lines (s ++ '\n' :: t) = s.lines ++ t.lines := by
  simp only [lines_eq_splitOn]
  exact List.splitOn_append_cons_self s t

lemma lines_newline_cons (t : Text) : lines ('\n' :: t) = [] :: t.lines := split_cons_of_pos rfl t

lemma lines_cons_of_ne {c : Char} (h : c ≠ '\n') {t l : Text} {ls : List Text}
    (ht : t.lines = l :: ls) : lines (c :: t) = (c :: l) :: ls :=
  split_cons_of_neg (p := (· == '\n')) (beq_false_of_ne h) ht

lemma lines_of_notMem {t : Text} (h : '\n' ∉ t) : t.lines = [t] := by
  rw [lines_eq_splitOn]
  exact List.splitOn_eq_singleton h

/-- Induction along the lines of a text, from its last one backwards. -/
theorem lines_induction {P : Text → Prop} (last : ∀ l, '\n' ∉ l → P l)
    (line : ∀ l t, '\n' ∉ l → P t → P (l ++ '\n' :: t)) (t : Text) : P t := by
  induction hn : t.length using Nat.strong_induction_on generalizing t with
  | _ n ih =>
    by_cases h : '\n' ∈ t
    · obtain ⟨l, rest, rfl, hl⟩ := List.eq_append_cons_of_mem h
      refine line l rest hl (ih rest.length ?_ rest rfl)
      rw [← hn, List.length_append, List.length_cons]
      omega
    · exact last t h

lemma newline_notMem_of_mem_lines {t l : Text} (h : l ∈ t.lines) : '\n' ∉ l := by
  induction t using lines_induction with
  | last t ht =>
    rw [lines_of_notMem ht, List.mem_singleton] at h
    rw [h]
    exact ht
  | line s t hs ih =>
    rw [lines_append_newline, lines_of_notMem hs, List.mem_append, List.mem_singleton] at h
    rcases h with rfl | h
    · exact hs
    · exact ih h

lemma infix_of_mem_lines {t l : Text} (h : l ∈ t.lines) : l <:+: t := by
  induction t using lines_induction with
  | last t ht =>
    rw [lines_of_notMem ht, List.mem_singleton] at h
    rw [h]
  | line s t hs ih =>
    rw [lines_append_newline, lines_of_notMem hs, List.mem_append, List.mem_singleton] at h
    rcases h with rfl | h
    · exact List.infix_append_left
    · exact (ih h).trans (List.infix_append_of_infix_right (List.suffix_cons '\n' t).isInfix)

/-- Written lines are read back, each split where it holds line feeds itself. -/
theorem lines_unlines (ls : List Text) : lines (unlines ls) = ls.flatMap lines ++ [[]] := by
  induction ls with
  | nil => rfl
  | cons l ls ih => rw [unlines_cons, lines_append_newline, ih, List.flatMap_cons, List.append_assoc]

lemma flatMap_lines_eq_self {ls : List Text} (h : ∀ l ∈ ls, '\n' ∉ l) : ls.flatMap lines = ls := by
  induction ls with
  | nil => rfl
  | cons l ls ih =>
    rw [List.forall_mem_cons] at h
    rw [List.flatMap_cons, lines_of_notMem h.1, ih h.2]
    rfl

lemma join_append_separator (separator : Text) {ls : List Text} (h : ls ≠ []) :
    join separator ls ++ separator = ls.flatMap (· ++ separator) := by
  induction ls with
  | nil => exact absurd rfl h
  | cons l ls ih =>
    cases ls with
    | nil => simp [join]
    | cons m ls =>
      rw [join, List.append_assoc, ih (List.cons_ne_nil m ls)]
      simp only [List.flatMap_cons, List.append_assoc]

lemma join_concat (separator : Text) (ls : List Text) (l : Text) :
    join separator (ls ++ [l]) = ls.flatMap (· ++ separator) ++ l := by
  have hne : ls ++ [l] ≠ [] := List.concat_ne_nil l ls
  have h := join_append_separator separator hne
  rw [List.flatMap_append, List.flatMap_singleton, ← List.append_assoc] at h
  exact List.append_cancel_right h

lemma dropReturn_of_getLast? {t : Text} (h : t.getLast? ≠ some '\r') : t.dropReturn = t := by
  rw [dropReturn, if_neg h]

@[simp] lemma dropReturn_concat (t : Text) : dropReturn (t ++ ['\r']) = t := by
  simp [dropReturn]

lemma dropReturn_append (s : Text) {t : Text} (hne : t ≠ []) (h : t.getLast? ≠ some '\r') :
    dropReturn (s ++ t) = s ++ t := by
  refine dropReturn_of_getLast? ?_
  rwa [List.getLast?_append_of_ne_nil _ hne]

lemma dropReturn_isPrefix (t : Text) : t.dropReturn <+: t := by
  rw [dropReturn]
  split
  · exact List.dropLast_prefix t
  · exact List.prefix_refl t

/-- The lines of a text as they are counted in a file: each ends at a line feed, a carriage return
right before it belongs to the terminator, and after the last terminator no line begins. -/
def records (t : Text) : List Text :=
  t.lines.dropLast.map dropReturn ++ (t.lines.getLast?.toList.filter (! ·.isEmpty))

lemma records_unlines (ls : List Text) :
    records (unlines ls) = (ls.flatMap lines).map dropReturn := by
  simp [records, lines_unlines]

/-- A line that is counted as it is written. -/
structure IsRecord (t : Text) : Prop where
  newline : '\n' ∉ t
  last : t.getLast? ≠ some '\r'

lemma IsRecord.map_dropReturn_lines {t : Text} (h : IsRecord t) : t.lines.map dropReturn = [t] := by
  rw [lines_of_notMem h.newline, List.map_singleton, dropReturn_of_getLast? h.last]

/-! ### Parts -/

theorem includes_iff_isInfix (part t : Text) : includes part t = true ↔ part <:+: t := by
  induction t with
  | nil => simp [includes]
  | cons c t ih =>
    rw [includes, Bool.or_eq_true, ih, List.isPrefixOf_iff_prefix, List.infix_cons_iff]

lemma includes_eq_false_iff (part t : Text) : includes part t = false ↔ ¬part <:+: t := by
  rw [← includes_iff_isInfix, Bool.not_eq_true]

/-- What begins a text up to a character that it lacks ends before that character. -/
lemma prefix_of_prefix_append_cons {p s t : Text} {c : Char} (hc : c ∉ p) (h : p <+: s ++ c :: t) :
    p <+: s := by
  induction p generalizing s with
  | nil => exact List.nil_prefix
  | cons d p ih =>
    rw [List.mem_cons, not_or] at hc
    cases s with
    | nil => exact absurd (List.cons_prefix_cons.mp h).1.symm hc.1
    | cons e s =>
      rw [List.cons_append, List.cons_prefix_cons] at h
      exact List.cons_prefix_cons.mpr ⟨h.1, ih hc.2 h.2⟩

/-- A text is cut in one way only where its first part has a property that the second part does not
begin with. -/
lemma append_inj_of_head {P : Char → Prop} {s t x y : Text} (hs : ∀ c ∈ s, P c)
    (ht : ∀ c ∈ t, P c) (hx : ∀ c ∈ x.head?, ¬P c) (hy : ∀ c ∈ y.head?, ¬P c)
    (h : s ++ x = t ++ y) : s = t ∧ x = y := by
  induction s generalizing t with
  | nil =>
    cases t with
    | nil => exact ⟨rfl, h⟩
    | cons d t =>
      rw [List.nil_append] at h
      subst h
      exact absurd (ht d List.mem_cons_self) (hx d rfl)
  | cons c s ih =>
    cases t with
    | nil =>
      rw [List.nil_append] at h
      subst h
      exact absurd (hs c List.mem_cons_self) (hy c rfl)
    | cons d t =>
      rw [List.forall_mem_cons] at hs ht
      rw [List.cons_append, List.cons_append, List.cons.injEq] at h
      obtain ⟨hst, hxy⟩ := ih hs.2 ht.2 h.2
      exact ⟨by rw [h.1, hst], hxy⟩

/-- Two characters stand next to each other in a text of two halves if they do so in one of them,
or if the text is cut between them. -/
lemma pair_infix_append {a b : Char} {s t : Text} :
    [a, b] <:+: s ++ t ↔
      [a, b] <:+: s ∨ [a, b] <:+: t ∨ (s.getLast? = some a ∧ t.head? = some b) := by
  rw [List.infix_append_iff_ne_nil]
  refine or_congr_right (or_congr_right ⟨?_, ?_⟩)
  · rintro ⟨u, v, hu, hv, huv, hs, ht⟩
    obtain ⟨x, rfl⟩ : ∃ x, u = [x] := by
      rcases u with _ | ⟨x, _ | ⟨y, u⟩⟩
      · exact absurd rfl hu
      · exact ⟨x, rfl⟩
      · simp only [List.cons_append, List.cons.injEq] at huv
        exact absurd (List.append_eq_nil_iff.mp huv.2.2.symm).2 hv
    obtain ⟨rfl, rfl⟩ : a = x ∧ [b] = v := by simpa using huv
    obtain ⟨s', rfl⟩ := hs
    obtain ⟨t', rfl⟩ := ht
    simp
  · rintro ⟨hs, ht⟩
    obtain ⟨s', rfl⟩ := List.getLast?_eq_some_iff.mp hs
    obtain ⟨t', rfl⟩ := List.head?_eq_some_iff.mp ht
    exact ⟨[a], [b], by simp, by simp, rfl, List.suffix_append s' [a], List.prefix_append [b] t'⟩

/-- Two characters that stand next to each other at one place of a text, and neither in front of it
nor behind it, do so at no other place. -/
lemma eq_of_append_pair_prefix {a b : Char} {s t before : Text} (hs : ¬[a, b] <:+: s ++ [a])
    (ht : ¬[a, b] <:+: b :: t) (h : before ++ [a, b] <+: s ++ a :: b :: t) : before = s := by
  obtain ⟨after, h⟩ := h
  rw [List.append_assoc] at h
  rcases List.append_eq_append_iff.mp h with ⟨u, rfl, hu⟩ | ⟨u, rfl, hu⟩
  · rcases u with _ | ⟨c, _ | ⟨d, u⟩⟩
    · exact (List.append_nil before).symm
    · simp only [List.cons_append, List.nil_append, List.cons.injEq] at hu
      obtain ⟨rfl, rfl, -⟩ := hu
      exact absurd ⟨before, [], by simp⟩ hs
    · simp only [List.cons_append, List.nil_append, List.cons.injEq] at hu
      obtain ⟨rfl, rfl, -⟩ := hu
      exact absurd ⟨before, u ++ [a], by simp⟩ hs
  · rcases u with _ | ⟨c, u⟩
    · exact List.append_nil s
    · simp only [List.cons_append, List.nil_append, List.cons.injEq] at hu
      exact absurd ⟨u, after, by simp [hu.2]⟩ ht

lemma pair_notInfix_unlines {a b : Char} (ha : a ≠ '\n') (hb : b ≠ '\n') {ls : List Text}
    (h : ∀ l ∈ ls, ¬[a, b] <:+: l) : ¬[a, b] <:+: unlines ls := by
  induction ls with
  | nil => simp
  | cons l ls ih =>
    rw [List.forall_mem_cons] at h
    rw [unlines_cons, pair_infix_append, List.infix_cons_iff]
    rintro (hl | (hl | hl) | ⟨-, hl⟩)
    · exact h.1 hl
    · exact ha (List.cons_prefix_cons.mp hl).1
    · exact ih h.2 hl
    · exact hb (Option.some.inj hl).symm

end AmbientDecls.Text
