import AmbientDecls.Layout.Basic
import AmbientDecls.Proofs.Text.Blank

/-!
# Layout in one pass

The layout of a document classifies its lines, finds their depths, and writes them. Here the three
are one pass over the lines that keeps four things in mind (`Cursor`). `layout_eq_ok_iff`,
`layout_eq_unbalanced_iff` and `layout_eq_unclosed_iff` say that the pass and the layout agree, so
whatever the pass does with the lines of a document, one after another, is true of its layout.
-/

namespace AmbientDecls.Layout

/-- What the layout has in mind between two lines of a document. -/
structure Cursor where
  /-- The number of open blocks. -/
  depth : Nat
  /-- Whether a block comment is open. -/
  inComment : Bool
  /-- Whether the line before is blank. -/
  afterBlank : Bool
  /-- Whether a line has been written and does not end in an opening brace. -/
  room : Bool
deriving DecidableEq, Repr

namespace Cursor

def start : Cursor := ⟨0, false, false, false⟩

/-- A line as it is classified here; its number plays no role in how it is laid out. -/
def line (s : Cursor) (text : Text) : Line := ⟨0, s.afterBlank, (roleOf s.inComment text).1, text⟩

def here (s : Cursor) (l : Line) : Nat := if l.closes then s.depth - 1 else s.depth

/-- What is in mind after a line that is not blank. -/
def next (s : Cursor) (text : Text) : Cursor where
  depth := if (s.line text).opens then s.here (s.line text) + 1 else s.here (s.line text)
  inComment := (roleOf s.inComment text).2
  afterBlank := false
  room := text.getLast? != some '{'

/-- What is in mind after one more line; nothing if the line closes a block and none is open. -/
def advance (s : Cursor) (raw : Text) : Option Cursor :=
  if raw.trim = [] then some { s with afterBlank := true }
  else if (s.line raw.trim).closes && s.depth == 0 then none
  else some (s.next raw.trim)

def emit (unit : Text) (s : Cursor) (raw : Text) : List Text :=
  if raw.trim = [] then []
  else
    let l := s.line raw.trim
    (if s.afterBlank && s.room && ! l.closes then [[]] else []) ++ [indented unit (s.here l) l]

def run (s : Cursor) (raws : List Text) : Option Cursor := raws.foldlM advance s

def outputs (unit : Text) : Cursor → List Text → List Text
  | _, [] => []
  | s, raw :: rest => s.emit unit raw ++ (s.advance raw).elim [] (outputs unit · rest)

lemma advance_blank {raw : Text} (h : raw.trim = []) (s : Cursor) :
    s.advance raw = some { s with afterBlank := true } := if_pos h

lemma advance_unbalanced {s : Cursor} {raw : Text} (h : raw.trim ≠ [])
    (hf : ((s.line raw.trim).closes && s.depth == 0) = true) : s.advance raw = none := by
  rw [advance, if_neg h, if_pos hf]

lemma advance_text {s : Cursor} {raw : Text} (h : raw.trim ≠ [])
    (hf : ¬((s.line raw.trim).closes && s.depth == 0) = true) :
    s.advance raw = some (s.next raw.trim) := by
  rw [advance, if_neg h, if_neg hf]

/-- The pass goes on behind a line that is not blank if the line does not close what is not open. -/
lemma next_of_advance {s s' : Cursor} {raw : Text} (h : raw.trim ≠ [])
    (hadv : s.advance raw = some s') :
    ¬((s.line raw.trim).closes && s.depth == 0) = true ∧ s' = s.next raw.trim := by
  have hf : ¬((s.line raw.trim).closes && s.depth == 0) = true := by
    intro hf
    rw [advance_unbalanced h hf] at hadv
    cases hadv
  rw [advance_text h hf, Option.some.injEq] at hadv
  exact ⟨hf, hadv.symm⟩

/-- The pass breaks off only at a line that closes what is not open. -/
lemma unbalanced_of_advance {s : Cursor} {raw : Text} (hadv : s.advance raw = none) :
    raw.trim ≠ [] ∧ ((s.line raw.trim).closes && s.depth == 0) = true := by
  have hne : raw.trim ≠ [] := by
    intro hne
    rw [advance_blank hne] at hadv
    cases hadv
  refine ⟨hne, ?_⟩
  by_contra hf
  rw [advance_text hne hf] at hadv
  cases hadv

lemma emit_blank {raw : Text} (h : raw.trim = []) (unit : Text) (s : Cursor) :
    s.emit unit raw = [] := if_pos h

lemma emit_eq {raw : Text} (h : raw.trim ≠ []) (unit : Text) (s : Cursor) :
    s.emit unit raw =
      (if s.afterBlank && s.room && ! (s.line raw.trim).closes then [[]] else []) ++
        [indented unit (s.here (s.line raw.trim)) (s.line raw.trim)] := if_neg h

lemma emit_kept {s : Cursor} {raw : Text} (h : raw.trim ≠ [])
    (hk : (s.afterBlank && s.room && ! (s.line raw.trim).closes) = true) (unit : Text) :
    s.emit unit raw = [[], indented unit (s.here (s.line raw.trim)) (s.line raw.trim)] := by
  rw [emit_eq h, if_pos hk, List.singleton_append]

lemma emit_text {s : Cursor} {raw : Text} (h : raw.trim ≠ [])
    (hk : ¬(s.afterBlank && s.room && ! (s.line raw.trim).closes) = true) (unit : Text) :
    s.emit unit raw = [indented unit (s.here (s.line raw.trim)) (s.line raw.trim)] := by
  rw [emit_eq h, if_neg hk, List.nil_append]

@[simp] lemma run_nil (s : Cursor) : s.run [] = some s := rfl

lemma run_cons (s : Cursor) (raw : Text) (rest : List Text) :
    s.run (raw :: rest) = (s.advance raw).bind (run · rest) := rfl

lemma run_cons_of_advance {s s' : Cursor} {raw : Text} (h : s.advance raw = some s')
    (rest : List Text) : s.run (raw :: rest) = s'.run rest := by
  rw [run_cons, h, Option.bind_some]

theorem run_append (s : Cursor) (raws more : List Text) :
    s.run (raws ++ more) = (s.run raws).bind (run · more) := List.foldlM_append

lemma run_append_of_run {s s' : Cursor} {raws : List Text} (h : s.run raws = some s')
    (more : List Text) : s.run (raws ++ more) = s'.run more := by
  rw [run_append, h, Option.bind_some]

lemma outputs_cons_of_advance {s s' : Cursor} {raw : Text} (h : s.advance raw = some s')
    (unit : Text) (rest : List Text) :
    s.outputs unit (raw :: rest) = s.emit unit raw ++ s'.outputs unit rest := by
  rw [outputs, h, Option.elim_some]

lemma outputs_append_of_run {s s' : Cursor} {raws : List Text} (h : s.run raws = some s')
    (unit : Text) (more : List Text) :
    s.outputs unit (raws ++ more) = s.outputs unit raws ++ s'.outputs unit more := by
  induction raws generalizing s with
  | nil =>
    rw [run_nil, Option.some.injEq] at h
    rw [h]
    rfl
  | cons raw raws ih =>
    rw [run_cons, Option.bind_eq_some_iff] at h
    obtain ⟨s₁, h₁, h⟩ := h
    rw [List.cons_append, outputs_cons_of_advance h₁, outputs_cons_of_advance h₁, ih h,
      List.append_assoc]

lemma advance_congr {raw raw' : Text} (h : raw.trim = raw'.trim) (s : Cursor) :
    s.advance raw = s.advance raw' := by
  rw [advance, advance, h]

lemma emit_congr {raw raw' : Text} (h : raw.trim = raw'.trim) (unit : Text) (s : Cursor) :
    s.emit unit raw = s.emit unit raw' := by
  rw [emit, emit, h]

lemma run_map_dropReturn (raws : List Text) (s : Cursor) :
    s.run (raws.map Text.dropReturn) = s.run raws := by
  induction raws generalizing s with
  | nil => rfl
  | cons raw rest ih =>
    rw [List.map_cons, run_cons, run_cons, advance_congr (Text.trim_dropReturn raw), funext ih]

lemma outputs_map_dropReturn (unit : Text) (raws : List Text) (s : Cursor) :
    s.outputs unit (raws.map Text.dropReturn) = s.outputs unit raws := by
  induction raws generalizing s with
  | nil => rfl
  | cons raw rest ih =>
    rw [List.map_cons, outputs, outputs, advance_congr (Text.trim_dropReturn raw),
      emit_congr (Text.trim_dropReturn raw), funext ih]

end Cursor

/-! ### The pass and the layout -/

lemma classify_cons_blank {raw : Text} (h : raw.trim = []) (n : Nat) (b c : Bool)
    (rest : List Text) : classify n b c (raw :: rest) = classify (n + 1) true c rest := by
  rw [classify, h]

lemma classify_cons_text {raw : Text} (h : raw.trim ≠ []) (n : Nat) (b c : Bool)
    (rest : List Text) :
    classify n b c (raw :: rest) =
      ⟨n, b, (roleOf c raw.trim).1, raw.trim⟩ ::
        classify (n + 1) false (roleOf c raw.trim).2 rest := by
  rw [classify]
  cases ht : raw.trim with
  | nil => exact absurd ht h
  | cons d ds => rfl

/-- Finding the depth of a line that is not blank moves the cursor. -/
lemma place_classify_cons {raw : Text} (h : raw.trim ≠ []) (n : Nat) (s : Cursor)
    (rest : List Text) :
    place s.depth (classify n s.afterBlank s.inComment (raw :: rest)) =
      if (s.line raw.trim).closes && s.depth == 0 then .error (.unbalanced n)
      else
        (place (s.next raw.trim).depth
          (classify (n + 1) (s.next raw.trim).afterBlank (s.next raw.trim).inComment rest)).map
          ((s.here (s.line raw.trim), { s.line raw.trim with number := n }) :: ·) := by
  rw [classify_cons_text h, place]
  rfl

/-- The lines that are written where `previous` is what was written last. -/
def writtenFrom (unit : Text) : Option Line → List (Nat × Line) → List Text
  | none => written unit
  | some previous => writtenAfter unit previous

/-- Whether an empty line may follow what was written last. -/
def roomAfter : Option Line → Bool
  | none => false
  | some previous => previous.text.getLast? != some '{'

/-- What finding the depths of lines comes to, told by a pass over them. -/
def Agrees (s : Cursor) (raws : List Text) : Except Fault (List (Nat × Line)) → Prop
  | .error (.unbalanced _) => s.run raws = none
  | .error (.unclosed depth) => depth ≠ 0 ∧ ∃ e, s.run raws = some e ∧ e.depth = depth
  | .ok placed =>
    (∃ e, s.run raws = some e ∧ e.depth = 0) ∧
      ∀ unit previous, roomAfter previous = s.room →
        writtenFrom unit previous placed = s.outputs unit raws

lemma writtenFrom_cons {unit : Text} {previous : Option Line} {s : Cursor}
    (h : roomAfter previous = s.room) (l : Line) (hb : l.afterBlank = s.afterBlank) (depth : Nat)
    (placed : List (Nat × Line)) :
    writtenFrom unit previous ((depth, l) :: placed) =
      (if s.afterBlank && s.room && ! l.closes then [[]] else []) ++
        indented unit depth l :: writtenFrom unit (some l) placed := by
  cases previous with
  | none =>
    rw [roomAfter] at h
    rw [← h, Bool.and_false, Bool.false_and]
    rfl
  | some p =>
    rw [roomAfter] at h
    rw [← h, ← hb]
    rfl

theorem agrees_place (raws : List Text) (n : Nat) (s : Cursor) :
    Agrees s raws (place s.depth (classify n s.afterBlank s.inComment raws)) := by
  induction raws generalizing n s with
  | nil =>
    rw [classify, place]
    by_cases hd : s.depth = 0
    · rw [if_pos hd]
      refine ⟨⟨s, rfl, hd⟩, fun unit previous _ => ?_⟩
      cases previous <;> rfl
    · rw [if_neg hd]
      exact ⟨hd, s, rfl, rfl⟩
  | cons raw rest ih =>
    by_cases hraw : raw.trim = []
    · -- A blank line only leaves its trace in the cursor.
      have hadv := Cursor.advance_blank hraw s
      have hi := ih (n + 1) { s with afterBlank := true }
      rw [classify_cons_blank hraw]
      cases hp : place s.depth (classify (n + 1) true s.inComment rest) with
      | error f =>
        rw [hp] at hi
        cases f <;> simpa only [Agrees, Cursor.run_cons_of_advance hadv] using hi
      | ok placed =>
        rw [hp] at hi
        simpa only [Agrees, Cursor.run_cons_of_advance hadv, Cursor.outputs_cons_of_advance hadv,
          Cursor.emit_blank hraw, List.nil_append] using hi
    · rw [place_classify_cons hraw]
      by_cases hf : ((s.line raw.trim).closes && s.depth == 0) = true
      · have hadv := Cursor.advance_unbalanced hraw hf
        rw [if_pos hf, Agrees, Cursor.run_cons, hadv, Option.bind_none]
      · have hadv := Cursor.advance_text hraw hf
        have hi := ih (n + 1) (s.next raw.trim)
        rw [if_neg hf]
        cases hp : place (s.next raw.trim).depth (classify (n + 1) (s.next raw.trim).afterBlank
            (s.next raw.trim).inComment rest) with
        | error f =>
          rw [hp] at hi
          cases f <;> simpa only [Agrees, Except.map, Cursor.run_cons_of_advance hadv] using hi
        | ok placed =>
          rw [hp] at hi
          obtain ⟨he, hw⟩ := hi
          refine ⟨by rwa [Cursor.run_cons_of_advance hadv], fun unit previous hroom => ?_⟩
          rw [writtenFrom_cons hroom _ rfl, hw unit _ rfl, Cursor.outputs_cons_of_advance hadv,
            Cursor.emit, if_neg hraw, List.append_assoc]
          rfl

lemma agrees_layout (t : Text) : Agrees .start t.lines (place 0 (linesOf t)) :=
  agrees_place t.lines 1 .start

/-- A document is laid out when its pass ends with no block open. -/
theorem layout_eq_ok_iff (o : Options) (t u : Text) :
    layout o t = .ok u ↔
      (∃ s, Cursor.start.run t.lines = some s ∧ s.depth = 0) ∧
        u = Text.join (o.terminator t) (Cursor.start.outputs o.unit t.lines) ++ o.terminator t := by
  have h := agrees_layout t
  rw [layout]
  cases hp : place 0 (linesOf t) with
  | error f =>
    rw [hp] at h
    simp only [Except.map, reduceCtorEq, false_iff]
    rintro ⟨⟨s, hs, hd⟩, -⟩
    cases f with
    | unbalanced n =>
      rw [Agrees, hs] at h
      cases h
    | unclosed d =>
      obtain ⟨hne, e, he, rfl⟩ := h
      rw [hs, Option.some.injEq] at he
      exact hne (he ▸ hd)
  | ok placed =>
    rw [hp] at h
    obtain ⟨hs, hw⟩ := h
    have hout : written o.unit placed = Cursor.start.outputs o.unit t.lines := hw o.unit none rfl
    simp only [Except.map, Except.ok.injEq, hout]
    constructor
    · rintro rfl
      exact ⟨hs, rfl⟩
    · rintro ⟨-, rfl⟩
      rfl

/-- A document is unbalanced when its pass breaks off. -/
theorem layout_eq_unbalanced_iff (o : Options) (t : Text) :
    (∃ n, layout o t = .error (.unbalanced n)) ↔ Cursor.start.run t.lines = none := by
  have h := agrees_layout t
  rw [layout]
  cases hp : place 0 (linesOf t) with
  | error f =>
    rw [hp] at h
    cases f with
    | unbalanced n =>
      rw [Agrees] at h
      simp [Except.map, h]
    | unclosed d =>
      obtain ⟨-, e, he, -⟩ := h
      simp [Except.map, he]
  | ok placed =>
    rw [hp] at h
    obtain ⟨⟨e, he, -⟩, -⟩ := h
    simp [Except.map, he]

/-- A document is unclosed when its pass ends with blocks open. -/
theorem layout_eq_unclosed_iff (o : Options) (t : Text) (depth : Nat) :
    layout o t = .error (.unclosed depth) ↔
      depth ≠ 0 ∧ ∃ s, Cursor.start.run t.lines = some s ∧ s.depth = depth := by
  have h := agrees_layout t
  rw [layout]
  cases hp : place 0 (linesOf t) with
  | error f =>
    rw [hp] at h
    cases f with
    | unbalanced n =>
      rw [Agrees] at h
      simp [Except.map, h]
    | unclosed d =>
      obtain ⟨hne, e, he, rfl⟩ := h
      simp only [Except.map, Except.error.injEq, Fault.unclosed.injEq, he, Option.some.injEq,
        exists_eq_left']
      exact ⟨fun hd => ⟨hd ▸ hne, hd⟩, fun hd => hd.2⟩
  | ok placed =>
    rw [hp] at h
    obtain ⟨⟨e, he, hd⟩, -⟩ := h
    simp only [Except.map, reduceCtorEq, he, Option.some.injEq, exists_eq_left', hd, false_iff]
    rintro ⟨hne, rfl⟩
    exact hne rfl

/-- Under all options both documents are laid out, or both fail for the same reason, which is a line
that closes a block where none is open, or a number of blocks that are open at the end. -/
def SameVerdict (t u : Text) : Prop := ∀ o : Options,
  ((∃ v, layout o t = .ok v) ↔ ∃ v, layout o u = .ok v) ∧
  ((∃ n, layout o t = .error (.unbalanced n)) ↔ ∃ n, layout o u = .error (.unbalanced n)) ∧
  ∀ depth, layout o t = .error (.unclosed depth) ↔ layout o u = .error (.unclosed depth)

/-- Where the pass over two documents ends decides whether and why they cannot be laid out. -/
theorem sameVerdict_of_run {t u : Text}
    (h : Cursor.start.run t.lines = Cursor.start.run u.lines) : SameVerdict t u := by
  refine fun o => ⟨?_, ?_, fun depth => ?_⟩
  · simp only [layout_eq_ok_iff, h, exists_and_left, exists_eq, and_true]
  · rw [layout_eq_unbalanced_iff, layout_eq_unbalanced_iff, h]
  · rw [layout_eq_unclosed_iff, layout_eq_unclosed_iff, h]

end AmbientDecls.Layout
