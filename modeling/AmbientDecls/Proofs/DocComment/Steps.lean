import AmbientDecls.Proofs.DocComment

/-!
# Comments step by step

A comment is collected in steps: free text, a line, or an empty line. What the steps bring are
pieces, and each of them is one line of the comment, escaped and in its place
(`lines_ofSteps`). So whatever the pieces hold, the written block has one end mark, the one of its
last line.
-/

namespace AmbientDecls.DocComment

open Text

/-- A step in which a comment is collected. -/
inductive Step where
  | text (t : Text)
  | line (l : Text)
  | blank

def add (d : DocComment) : Step → DocComment
  | .text t => d.text t
  | .line l => d.line l
  | .blank => d.blank

def ofSteps (steps : List Step) : DocComment := steps.foldl add {}

/-- What a step brings, before it is escaped. -/
def Step.pieces : Step → List Text
  | .text t => t.lines.map Text.dropReturn
  | .line l => [l]
  | .blank => [[]]

lemma lines_text (d : DocComment) (t : Text) :
    (d.text t).lines = d.lines ++ (t.lines.map Text.dropReturn).map escape := by
  rw [text, List.map_map]
  rfl

lemma lines_add (d : DocComment) (step : Step) :
    (d.add step).lines = d.lines ++ step.pieces.map escape := by
  cases step with
  | text t => exact d.lines_text t
  | line l => rfl
  | blank => rfl

lemma lines_foldl_add (steps : List Step) (d : DocComment) :
    (steps.foldl add d).lines = d.lines ++ (steps.flatMap Step.pieces).map escape := by
  induction steps generalizing d with
  | nil => exact (List.append_nil d.lines).symm
  | cons step steps ih =>
    rw [List.foldl_cons, ih, lines_add, List.flatMap_cons, List.map_append, List.append_assoc]

theorem lines_ofSteps (steps : List Step) :
    (ofSteps steps).lines = (steps.flatMap Step.pieces).map escape :=
  lines_foldl_add steps {}

lemma escapedFrom_ofSteps {P : Text → Prop} {steps : List Step}
    (h : ∀ piece ∈ steps.flatMap Step.pieces, P piece) : (ofSteps steps).EscapedFrom P := by
  intro l hl
  rw [lines_ofSteps] at hl
  obtain ⟨piece, hpiece, rfl⟩ := List.mem_map.mp hl
  exact ⟨piece, h piece hpiece, rfl⟩

/-- The text of the block. -/
def written (d : DocComment) (indent : Text) : Text := unlines (d.render indent)

lemma written_eq (d : DocComment) (indent : Text) :
    d.written indent = indent ++ "/**\n".toList ++
      (unlines (d.lines.map (renderLine indent)) ++ indent ++ " */\n".toList) := by
  rw [written, unlines_render, body]
  simp

/-- The text up to the end mark of the last line. -/
def beforeEnd (d : DocComment) (indent : Text) : Text := indent ++ "/*".toList ++ d.body indent

lemma written_eq_beforeEnd (d : DocComment) (indent : Text) :
    d.written indent = d.beforeEnd indent ++ "*/\n".toList := by
  rw [written, unlines_render, beforeEnd]
  simp

lemma EscapedFrom.end_notInfix_beforeEnd {P : Text → Prop} {d : DocComment} (h : d.EscapedFrom P)
    {indent : Text} (hindent : IsBlankText indent) :
    ¬['*', '/'] <:+: d.beforeEnd indent ++ ['*'] := by
  have hslash : '/' ∉ indent := fun hc => absurd (hindent '/' hc) (by decide)
  have hstar : '*' ∉ indent := fun hc => absurd (hindent '*' hc) (by decide)
  rw [beforeEnd, List.append_assoc, pair_infix_append, pair_infix_append]
  rintro ((hi | hi | ⟨hi, -⟩) | hi | ⟨-, hi⟩)
  · exact hslash (hi.mem (by simp))
  · exact absurd hi (by decide)
  · exact hstar (List.mem_of_getLast? hi)
  · exact h.end_notInfix_body hindent hi
  · -- Behind the opening mark stands another asterisk.
    exact absurd (Option.some.inj hi) (by decide)

/-- A written comment begins with its opening mark, ends with its end mark, and holds no other end
mark, whatever was put into it. -/
theorem written_ends_once (steps : List Step) (indent : Text) (hindent : IsBlankText indent) :
    indent ++ "/**\n".toList <+: (ofSteps steps).written indent ∧
      " */\n".toList <:+ (ofSteps steps).written indent ∧
      ∃! before, before ++ "*/".toList <+: (ofSteps steps).written indent := by
  have hescaped : (ofSteps steps).EscapedFrom fun _ => True :=
    escapedFrom_ofSteps fun _ _ => trivial
  refine ⟨?_, ?_, (ofSteps steps).beforeEnd indent, ?_, fun before h => ?_⟩
  · rw [written_eq]
    exact List.prefix_append _ _
  · rw [written_eq, ← List.append_assoc]
    exact List.suffix_append _ _
  · rw [written_eq_beforeEnd]
    exact ⟨['\n'], by simp⟩
  · rw [written_eq_beforeEnd] at h
    exact eq_of_append_pair_prefix (hescaped.end_notInfix_beforeEnd hindent) (by decide) h

/-- Steps with end marks, parts of them at both ends of lines, and a line feed, below an indentation
with a line feed of its own. -/
theorem written_ends_once_hostile :
    let steps : List Step :=
      [.text "**/ */\n/x*".toList, .line "/ *//\n/".toList, .blank, .text "*\r\n/".toList]
    let indent : Text := "\n\t".toList
    IsBlankText indent ∧ indent ++ "/**\n".toList <+: (ofSteps steps).written indent ∧
      " */\n".toList <:+ (ofSteps steps).written indent ∧
      ∃! before, before ++ "*/".toList <+: (ofSteps steps).written indent := by
  intro steps indent
  have hindent : IsBlankText indent := List.all_eq_true.mp rfl
  exact ⟨hindent, written_ends_once steps indent hindent⟩

end AmbientDecls.DocComment
