import AmbientDecls.Proofs.Layout.Pass
import Mathlib.Data.List.Infix
import Mathlib.Data.Nat.Count

/-!
# Lines that open and close blocks

A reader of a document tells what a line is from the line and the lines above it: it is code unless
it is blank, begins a comment, or stands below an open one. Of the lines of code some close a block
and some open one. A pass counts both: its depth is the number of lines that have opened a block
without those that have closed one (`Cursor.tracks_run`).
-/

namespace AmbientDecls.Layout

open Text

/-- Whether a block comment is open below these lines. Outside of comments it is opened by a line
that starts with the mark and does not end it too; inside, the first line with an end mark ends
it. -/
def commentOpen (above : List Text) : Bool :=
  above.foldl
    (fun inside raw =>
      if inside then decide ¬"*/".toList <:+: raw.trim
      else decide ("/*".toList <+: raw.trim ∧ ¬"*/".toList <:+: raw.trim.drop 2))
    false

/-- The line is code: it is not blank, no comment is open above it, and it does not begin one. -/
structure IsCode (above : List Text) (raw : Text) : Prop where
  nonblank : raw.trim ≠ []
  outside : commentOpen above = false
  block : ¬"/*".toList <+: raw.trim
  line : ¬"//".toList <+: raw.trim

def Closes (above : List Text) (raw : Text) : Prop := IsCode above raw ∧ ['}'] <+: raw.trim

def Opens (above : List Text) (raw : Text) : Prop := IsCode above raw ∧ ['{'] <:+ raw.trim

instance (above : List Text) (raw : Text) : Decidable (IsCode above raw) :=
  decidable_of_iff
    (raw.trim ≠ [] ∧ commentOpen above = false ∧ ¬"/*".toList <+: raw.trim ∧
      ¬"//".toList <+: raw.trim)
    ⟨fun h => ⟨h.1, h.2.1, h.2.2.1, h.2.2.2⟩, fun h => ⟨h.nonblank, h.outside, h.block, h.line⟩⟩

instance (above : List Text) (raw : Text) : Decidable (Closes above raw) :=
  inferInstanceAs (Decidable (_ ∧ _))

instance (above : List Text) (raw : Text) : Decidable (Opens above raw) :=
  inferInstanceAs (Decidable (_ ∧ _))

/-- The line at this place, from zero, closes a block. -/
def ClosesAt (ls : List Text) (i : Nat) : Prop := ∃ raw ∈ ls[i]?, Closes (ls.take i) raw

def OpensAt (ls : List Text) (i : Nat) : Prop := ∃ raw ∈ ls[i]?, Opens (ls.take i) raw

instance (ls : List Text) : DecidablePred (ClosesAt ls) := fun i =>
  inferInstanceAs (Decidable (∃ raw ∈ ls[i]?, Closes (ls.take i) raw))

instance (ls : List Text) : DecidablePred (OpensAt ls) := fun i =>
  inferInstanceAs (Decidable (∃ raw ∈ ls[i]?, Opens (ls.take i) raw))

/-- How many of the first `n` lines close a block. -/
def closings (ls : List Text) (n : Nat) : Nat := Nat.count (ClosesAt ls) n

/-- How many of the first `n` lines open a block. -/
def openings (ls : List Text) (n : Nat) : Nat := Nat.count (OpensAt ls) n

lemma closesAt_iff {ls : List Text} {i : Nat} {raw : Text} (h : ls[i]? = some raw) :
    ClosesAt ls i ↔ Closes (ls.take i) raw := by
  unfold ClosesAt
  rw [h]
  exact ⟨fun ⟨_, hm, hc⟩ => Option.some.inj hm ▸ hc, fun hc => ⟨raw, rfl, hc⟩⟩

lemma opensAt_iff {ls : List Text} {i : Nat} {raw : Text} (h : ls[i]? = some raw) :
    OpensAt ls i ↔ Opens (ls.take i) raw := by
  unfold OpensAt
  rw [h]
  exact ⟨fun ⟨_, hm, hc⟩ => Option.some.inj hm ▸ hc, fun hc => ⟨raw, rfl, hc⟩⟩

lemma closings_succ {ls : List Text} {i : Nat} {raw : Text} (h : ls[i]? = some raw) :
    closings ls (i + 1) = closings ls i + if Closes (ls.take i) raw then 1 else 0 := by
  unfold closings
  rw [Nat.count_succ]
  simp only [closesAt_iff h]

lemma openings_succ {ls : List Text} {i : Nat} {raw : Text} (h : ls[i]? = some raw) :
    openings ls (i + 1) = openings ls i + if Opens (ls.take i) raw then 1 else 0 := by
  unfold openings
  rw [Nat.count_succ]
  simp only [opensAt_iff h]

lemma roleOf_snd (inside : Bool) (text : Text) :
    (roleOf inside text).2 =
      if inside then decide ¬"*/".toList <:+: text
      else decide ("/*".toList <+: text ∧ ¬"*/".toList <:+: text.drop 2) := by
  have hi : ∀ t : Text, (! Text.includes "*/".toList t) = decide ¬"*/".toList <:+: t := by
    intro t
    rw [Bool.eq_iff_iff, decide_eq_true_iff, Bool.not_eq_true', includes_eq_false_iff]
  unfold roleOf
  cases inside with
  | true => exact hi text
  | false =>
    simp only [Bool.false_eq_true, if_false]
    by_cases hb : "/*".toList <+: text
    · have hb' : "/*".toList.isPrefixOf text = true := List.isPrefixOf_iff_prefix.mpr hb
      rw [if_pos hb', hi]
      simp only [hb, true_and]
    · have hb' : ¬"/*".toList.isPrefixOf text = true := by rwa [List.isPrefixOf_iff_prefix]
      rw [if_neg hb']
      simp only [hb, false_and, decide_false]
      split
      · rfl
      · rfl

lemma roleOf_fst_eq_code_iff (inside : Bool) (text : Text) :
    (roleOf inside text).1 = .code ↔
      inside = false ∧ ¬"/*".toList <+: text ∧ ¬"//".toList <+: text := by
  rw [← List.isPrefixOf_iff_prefix, ← List.isPrefixOf_iff_prefix]
  unfold roleOf
  cases inside with
  | true => exact ⟨(fun h => nomatch h), fun h => nomatch h.1⟩
  | false =>
    rw [if_neg Bool.false_ne_true]
    by_cases hb : "/*".toList.isPrefixOf text = true
    · rw [if_pos hb]
      exact ⟨(fun h => nomatch h), fun h => absurd hb h.2.1⟩
    · rw [if_neg hb]
      by_cases hl : "//".toList.isPrefixOf text = true
      · rw [if_pos hl]
        exact ⟨(fun h => nomatch h), fun h => absurd hl h.2.2⟩
      · rw [if_neg hl]
        exact ⟨fun _ => ⟨rfl, hb, hl⟩, fun _ => rfl⟩

lemma commentOpen_concat (above : List Text) (raw : Text) :
    commentOpen (above ++ [raw]) = (roleOf (commentOpen above) raw.trim).2 := by
  rw [roleOf_snd, commentOpen, List.foldl_append]
  rfl

lemma commentOpen_concat_blank {raw : Text} (h : raw.trim = []) (above : List Text) :
    commentOpen (above ++ [raw]) = commentOpen above := by
  rw [commentOpen_concat, h]
  cases commentOpen above <;> rfl

namespace Cursor

variable {s : Cursor} {above : List Text} {raw : Text}

lemma isCode_iff (hs : s.inComment = commentOpen above) (hne : raw.trim ≠ []) :
    (s.line raw.trim).role = .code ↔ IsCode above raw := by
  have hrole : (s.line raw.trim).role = (roleOf (commentOpen above) raw.trim).1 := by rw [← hs]; rfl
  rw [hrole, roleOf_fst_eq_code_iff]
  exact ⟨fun h => ⟨hne, h.1, h.2.1, h.2.2⟩, fun h => ⟨h.outside, h.block, h.line⟩⟩

lemma closes_iff (hs : s.inComment = commentOpen above) (hne : raw.trim ≠ []) :
    (s.line raw.trim).closes = true ↔ Closes above raw := by
  unfold Closes Line.closes
  rw [Bool.and_eq_true, beq_iff_eq, beq_iff_eq, isCode_iff hs hne,
    List.singleton_prefix_iff_head?_eq_some]
  rfl

lemma opens_iff (hs : s.inComment = commentOpen above) (hne : raw.trim ≠ []) :
    (s.line raw.trim).opens = true ↔ Opens above raw := by
  unfold Opens Line.opens
  rw [Bool.and_eq_true, beq_iff_eq, beq_iff_eq, isCode_iff hs hne,
    List.singleton_suffix_iff_getLast?_eq_some]
  rfl

/-- The pass breaks off at a line that closes a block where none is open. -/
lemma advance_eq_none_iff (hs : s.inComment = commentOpen above) :
    s.advance raw = none ↔ Closes above raw ∧ s.depth = 0 := by
  by_cases hne : raw.trim = []
  · rw [advance_blank hne]
    refine ⟨(fun h => nomatch h), fun h => absurd hne ?_⟩
    exact h.1.1.nonblank
  · rw [← closes_iff hs hne]
    by_cases hf : ((s.line raw.trim).closes && s.depth == 0) = true
    · rw [advance_unbalanced hne hf]
      simpa using hf
    · rw [advance_text hne hf]
      simpa using hf

lemma next_depth (hs : s.inComment = commentOpen above) (hne : raw.trim ≠ [])
    (hpos : Closes above raw → 0 < s.depth) :
    (s.next raw.trim).depth + (if Closes above raw then 1 else 0) =
      s.depth + if Opens above raw then 1 else 0 := by
  have ho := opens_iff hs hne
  by_cases hc : Closes above raw
  · have hd := hpos hc
    have hhere : s.here (s.line raw.trim) = s.depth - 1 := if_pos ((closes_iff hs hne).mpr hc)
    rw [next, hhere, if_pos hc]
    simp only [ho]
    split <;> omega
  · have hhere : s.here (s.line raw.trim) = s.depth := if_neg (mt (closes_iff hs hne).mp hc)
    rw [next, hhere, if_neg hc]
    simp only [ho]
    split <;> omega

/-- The cursor behind the first `n` lines knows what a reader knows of them. -/
structure Tracks (ls : List Text) (n : Nat) (s : Cursor) : Prop where
  inComment : s.inComment = commentOpen (ls.take n)
  depth : openings ls n = closings ls n + s.depth

lemma Tracks.advance {ls : List Text} {n : Nat} {s' : Cursor} (h : Tracks ls n s)
    (hn : ls[n]? = some raw) (hadv : s.advance raw = some s') : Tracks ls (n + 1) s' := by
  have htake : ls.take (n + 1) = ls.take n ++ [raw] := by
    rw [List.take_add_one, hn, Option.toList_some]
  have hdepth := h.depth
  by_cases hne : raw.trim = []
  · have hc : ¬Closes (ls.take n) raw := fun hc => hc.1.nonblank hne
    have ho : ¬Opens (ls.take n) raw := fun ho => ho.1.nonblank hne
    rw [advance_blank hne, Option.some.injEq] at hadv
    subst hadv
    refine ⟨?_, ?_⟩
    · rw [htake, commentOpen_concat_blank hne, ← h.inComment]
    · rw [openings_succ hn, closings_succ hn, if_neg hc, if_neg ho]
      exact hdepth
  · have hpos : Closes (ls.take n) raw → 0 < s.depth := by
      intro hc
      by_contra hd
      have hnone := (advance_eq_none_iff h.inComment).mpr ⟨hc, by omega⟩
      rw [hnone] at hadv
      cases hadv
    obtain ⟨-, rfl⟩ := next_of_advance hne hadv
    refine ⟨?_, ?_⟩
    · rw [htake, commentOpen_concat, ← h.inComment]
      rfl
    · have hnext := next_depth h.inComment hne hpos
      rw [openings_succ hn, closings_succ hn]
      omega

lemma run_take_succ {ls : List Text} {n : Nat} (hn : ls[n]? = some raw) (s : Cursor) :
    s.run (ls.take (n + 1)) = (s.run (ls.take n)).bind (advance · raw) := by
  rw [List.take_add_one, hn, run_append]
  refine congrArg _ (funext fun e => ?_)
  rw [Option.toList_some, run_cons]
  cases e.advance raw with
  | none => rfl
  | some e' => rfl

/-- What a pass has in mind behind the first lines of a document. -/
theorem tracks_run {ls : List Text} {n : Nat} (hn : n ≤ ls.length)
    (h : start.run (ls.take n) = some s) : Tracks ls n s := by
  induction n generalizing s with
  | zero =>
    have hs : s = start := (Option.some.inj h).symm
    subst hs
    exact ⟨rfl, rfl⟩
  | succ n ih =>
    have hget : ls[n]? = some ls[n] := List.getElem?_eq_getElem hn
    rw [run_take_succ hget, Option.bind_eq_some_iff] at h
    obtain ⟨m, hm, hadv⟩ := h
    exact (ih (by omega) hm).advance hget hadv

lemma tracks_run_all {ls : List Text} (h : start.run ls = some s) : Tracks ls ls.length s :=
  tracks_run le_rfl (by rwa [List.take_length])

lemma inComment_run {ls : List Text} (h : start.run ls = some s) : s.inComment = commentOpen ls := by
  have ht := (tracks_run_all h).inComment
  rwa [List.take_length] at ht

end Cursor

end AmbientDecls.Layout
