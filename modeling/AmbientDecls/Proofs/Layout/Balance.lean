import AmbientDecls.Proofs.Layout.CodeLines
import Mathlib.Order.Bounds.Basic

/-!
# Balance of opening and closing lines

Whether a document can be laid out is a matter of counting. It is unbalanced at the first line that
closes a block without one to close, it is unclosed when more lines open a block than close one, and
it is laid out when neither is so (`verdict_by_balance`). The options have no part in it.
-/

namespace AmbientDecls.Layout

open Text

/-- The line at this place closes a block, and with it more lines have closed a block than lines
above it have opened one. -/
def Unmatched (ls : List Text) (i : Nat) : Prop :=
  ClosesAt ls i ∧ openings ls i < closings ls (i + 1)

namespace Cursor

lemma Tracks.advance_eq_none_iff {s : Cursor} {ls : List Text} {i : Nat} {raw : Text}
    (h : Tracks ls i s) (hi : ls[i]? = some raw) : s.advance raw = none ↔ Unmatched ls i := by
  have hdepth := h.depth
  have hsucc := closings_succ hi
  rw [Cursor.advance_eq_none_iff h.inComment, Unmatched, closesAt_iff hi]
  constructor
  · rintro ⟨hc, hd⟩
    rw [if_pos hc] at hsucc
    exact ⟨hc, by omega⟩
  · rintro ⟨hc, hlt⟩
    rw [if_pos hc] at hsucc
    exact ⟨hc, by omega⟩

/-- A pass gets through the first lines if none of them is unmatched. -/
theorem exists_run_take_iff {ls : List Text} {n : Nat} (hn : n ≤ ls.length) :
    (∃ s, start.run (ls.take n) = some s) ↔ ∀ i < n, ¬Unmatched ls i := by
  induction n with
  | zero => exact ⟨fun _ i hi => absurd hi (Nat.not_lt_zero i), fun _ => ⟨start, rfl⟩⟩
  | succ n ih =>
    have hget : ls[n]? = some ls[n] := List.getElem?_eq_getElem hn
    have hle : n ≤ ls.length := by omega
    rw [run_take_succ hget, Nat.forall_lt_succ_right, ← ih hle]
    constructor
    · rintro ⟨e, he⟩
      obtain ⟨s, hs, hadv⟩ := Option.bind_eq_some_iff.mp he
      refine ⟨⟨s, hs⟩, ?_⟩
      rw [← (tracks_run hle hs).advance_eq_none_iff hget, hadv]
      exact Option.some_ne_none e
    · rintro ⟨⟨s, hs⟩, hu⟩
      rw [← (tracks_run hle hs).advance_eq_none_iff hget] at hu
      obtain ⟨e, he⟩ := Option.ne_none_iff_exists'.mp hu
      exact ⟨e, by rw [hs, Option.bind_some, he]⟩

lemma exists_run_iff (ls : List Text) :
    (∃ s, start.run ls = some s) ↔ ∀ i, ¬Unmatched ls i := by
  have h := exists_run_take_iff (le_refl ls.length)
  rw [List.take_length] at h
  rw [h]
  refine ⟨fun hu i => ?_, fun hu i _ => hu i⟩
  by_cases hi : i < ls.length
  · exact hu i hi
  · rintro ⟨⟨raw, hraw, -⟩, -⟩
    rw [List.getElem?_eq_none (Nat.le_of_not_lt hi)] at hraw
    cases hraw

end Cursor

lemma place_classify_of_advance {s s' : Cursor} {raw : Text} (h : s.advance raw = some s') (n : Nat)
    (rest : List Text) (f : Fault) :
    place s.depth (classify n s.afterBlank s.inComment (raw :: rest)) = .error f ↔
      place s'.depth (classify (n + 1) s'.afterBlank s'.inComment rest) = .error f := by
  by_cases hne : raw.trim = []
  · rw [Cursor.advance_blank hne, Option.some.injEq] at h
    rw [classify_cons_blank hne, ← h]
  · obtain ⟨hf, rfl⟩ := Cursor.next_of_advance hne h
    rw [place_classify_cons hne, if_neg hf]
    cases place (s.next raw.trim).depth (classify (n + 1) (s.next raw.trim).afterBlank
        (s.next raw.trim).inComment rest) with
    | error g => exact Iff.rfl
    | ok placed => exact ⟨(fun h => nomatch h), fun h => nomatch h⟩

/-- The line that is named is the one where the pass breaks off. -/
theorem place_eq_unbalanced_iff (raws : List Text) (n m : Nat) (s : Cursor) :
    place s.depth (classify n s.afterBlank s.inComment raws) = .error (.unbalanced m) ↔
      ∃ i raw e, raws[i]? = some raw ∧ s.run (raws.take i) = some e ∧ e.advance raw = none ∧
        m = n + i := by
  induction raws generalizing n s with
  | nil =>
    rw [classify, place]
    constructor
    · intro h
      split at h <;> cases h
    · rintro ⟨i, raw, e, hi, -⟩
      cases hi
  | cons raw rest ih =>
    cases hadv : s.advance raw with
    | none =>
      obtain ⟨hne, hf⟩ := Cursor.unbalanced_of_advance hadv
      rw [place_classify_cons hne, if_pos hf]
      constructor
      · intro h
        cases h
        exact ⟨0, raw, s, rfl, rfl, hadv, rfl⟩
      · rintro ⟨i, raw', e, -, hrun, -, rfl⟩
        cases i with
        | zero => rfl
        | succ i =>
          rw [List.take_succ_cons, Cursor.run_cons, hadv] at hrun
          cases hrun
    | some s' =>
      rw [place_classify_of_advance hadv, ih]
      constructor
      · rintro ⟨i, raw', e, hi, hrun, hnone, rfl⟩
        refine ⟨i + 1, raw', e, hi, ?_, hnone, by omega⟩
        rw [List.take_succ_cons, Cursor.run_cons_of_advance hadv, hrun]
      · rintro ⟨i, raw', e, hi, hrun, hnone, rfl⟩
        cases i with
        | zero =>
          -- The pass does not break off at the first line.
          cases hi
          cases hrun
          rw [hadv] at hnone
          cases hnone
        | succ i =>
          rw [List.take_succ_cons, Cursor.run_cons_of_advance hadv] at hrun
          exact ⟨i, raw', e, hi, hrun, hnone, by omega⟩

lemma layout_eq_unbalanced_iff_isLeast (o : Options) (t : Text) (n : Nat) :
    layout o t = .error (.unbalanced n) ↔
      ∃ i, n = i + 1 ∧ IsLeast {j | Unmatched t.lines j} i := by
  have hplace : layout o t = .error (.unbalanced n) ↔
      place 0 (linesOf t) = .error (.unbalanced n) := by
    rw [layout]
    cases place 0 (linesOf t) with
    | error f => simp [Except.map]
    | ok placed => simp [Except.map]
  have hpass := place_eq_unbalanced_iff t.lines 1 n .start
  rw [hplace]
  refine hpass.trans ⟨?_, ?_⟩
  · rintro ⟨i, raw, e, hi, hrun, hnone, rfl⟩
    have hlt : i < t.lines.length := (List.getElem?_eq_some_iff.mp hi).1
    have htracks := Cursor.tracks_run hlt.le hrun
    have hbefore := (Cursor.exists_run_take_iff hlt.le).mp ⟨e, hrun⟩
    refine ⟨i, Nat.add_comm 1 i, (htracks.advance_eq_none_iff hi).mp hnone, fun j hj => ?_⟩
    by_contra hji
    exact hbefore j (by omega) hj
  · rintro ⟨i, rfl, hu, hleast⟩
    obtain ⟨raw, hi, -⟩ := hu.1
    have hlt : i < t.lines.length := (List.getElem?_eq_some_iff.mp hi).1
    obtain ⟨e, hrun⟩ := (Cursor.exists_run_take_iff hlt.le).mpr fun j hj hu' =>
      absurd (hleast hu') (by omega)
    have htracks := Cursor.tracks_run hlt.le hrun
    exact ⟨i, raw, e, hi, hrun, (htracks.advance_eq_none_iff hi).mpr hu, Nat.add_comm i 1⟩

/-- The verdict on a document, under any options. It names the first line, counted from one, that
closes a block where none is open; without such a line, it gives the number of blocks that are open
at the end; and if there is none either, the document is laid out. -/
theorem verdict_by_balance (o : Options) (t : Text) :
    (∀ n, layout o t = .error (.unbalanced n) ↔
      ∃ i, n = i + 1 ∧ IsLeast {j | Unmatched t.lines j} i) ∧
    (∀ d, layout o t = .error (.unclosed d) ↔
      (∀ i, ¬Unmatched t.lines i) ∧ d ≠ 0 ∧
        openings t.lines t.lines.length = closings t.lines t.lines.length + d) ∧
    ((∃ u, layout o t = .ok u) ↔
      (∀ i, ¬Unmatched t.lines i) ∧
        openings t.lines t.lines.length = closings t.lines t.lines.length) := by
  have hdepth : ∀ s, Cursor.start.run t.lines = some s →
      openings t.lines t.lines.length = closings t.lines t.lines.length + s.depth :=
    fun s hs => (Cursor.tracks_run_all hs).depth
  refine ⟨layout_eq_unbalanced_iff_isLeast o t, fun d => ?_, ?_⟩
  · rw [layout_eq_unclosed_iff, ← Cursor.exists_run_iff]
    constructor
    · rintro ⟨hd, s, hs, rfl⟩
      exact ⟨⟨s, hs⟩, hd, hdepth s hs⟩
    · rintro ⟨⟨s, hs⟩, hd, hcount⟩
      have := hdepth s hs
      exact ⟨hd, s, hs, by omega⟩
  · rw [← Cursor.exists_run_iff]
    simp only [layout_eq_ok_iff]
    constructor
    · rintro ⟨u, ⟨s, hs, hd⟩, -⟩
      have := hdepth s hs
      exact ⟨⟨s, hs⟩, by omega⟩
    · rintro ⟨⟨s, hs⟩, hcount⟩
      have := hdepth s hs
      exact ⟨_, ⟨s, hs, by omega⟩, rfl⟩

-- The third line opens a comment and the sixth is one, so the eighth closes the last block.
example :
    layout {} "a \x7b\n\x7d b \x7b\n/*/\n\x7d\n*/\n/* c */ \x7b\n\n\x7d\n\x7d\n".toList =
      .error (.unbalanced 9) := rfl

end AmbientDecls.Layout
