import AmbientDecls.Proofs.Declaration.Signatures
import AmbientDecls.Proofs.DocComment.Reflow
import AmbientDecls.Proofs.Text.Optional

/-!
# The comment of a method

The comment of a method is collected from free texts: its description, an entry for every documented
argument, whether or not the signature has it in the brackets of another, and an entry for every
return value. It is written as the lines of these texts in order, and nothing else of the method
comes into it.
-/

namespace AmbientDecls

open Text

/-- A documented entry: its tag, the type between braces if it has one, and the description if it
has one. The type is never that of a parameter. -/
def entryText (tag : String) (type description : Option String) : Text :=
  tag.toList ++
    ifGiven type (fun token =>
      " \x7b".toList ++ (mapType (some token) .other).toList ++ ['\x7d']) ++
    ifGiven description fun d => ' ' :: d.toList

def Argument.entry (a : Argument) : Text := entryText "@param" a.type a.description

def ReturnValue.entry (r : ReturnValue) : Text := entryText "@returns" r.type r.description

/-- The description of a method, if it has one. -/
def Method.describing (m : Method) : List Text := ifGiven m.description fun d => [d.toList]

/-- The free texts of a method, in order. -/
def Method.documentation (m : Method) : List Text :=
  m.describing ++ m.arguments.map Argument.entry ++ m.returnValues.map ReturnValue.entry

/-- The lines of a free text, each without one carriage return at its end. -/
def reflowed (t : Text) : List Text := t.lines.map dropReturn

lemma toList_tagLine_eq (tag : String) (type description : Option String) :
    (tagLine tag type description).toList = entryText tag type description := by
  unfold tagLine entryText
  rw [String.toList_append, String.toList_append]
  refine congrArg₂ (· ++ ·) (congrArg (tag.toList ++ ·) ?_) ?_
  · cases type using optionalText_cases with
    | absent => rfl
    | empty => rfl
    | given token hne => simp [ifGiven_of_ne hne]
  · cases description using optionalText_cases with
    | absent => rfl
    | empty => rfl
    | given d hne => simp [ifGiven_of_ne hne]

namespace DocComment

/-- Free text is put in if there is any. -/
lemma text?_eq (d : DocComment) (t : Option String) :
    d.text? t = (ifGiven t fun s => [Step.text s.toList]).foldl add d := by
  cases t using optionalText_cases with
  | absent => rfl
  | empty => rfl
  | given s hne => simp [text?, ifGiven_of_ne hne, add]

lemma foldl_text (d : DocComment) {α : Type} (f : α → Text) (xs : List α) :
    xs.foldl (fun d x => d.text (f x)) d = ((xs.map f).map Step.text).foldl add d := by
  rw [List.map_map, List.foldl_map]
  rfl

end DocComment

open DocComment

/-- The comment of a method takes its free texts step by step. -/
theorem Method.comment_eq (m : Method) : m.comment = ofSteps (m.documentation.map Step.text) := by
  unfold comment
  simp only [toList_tagLine_eq, text?_eq]
  rw [foldl_text _ fun a : Argument => entryText "@param" a.type a.description,
    foldl_text _ fun r : ReturnValue => entryText "@returns" r.type r.description, ofSteps,
    documentation, describing, List.map_append, List.map_append, List.foldl_append,
    List.foldl_append, map_ifGiven]
  rfl

lemma Method.lines_comment (m : Method) :
    m.comment.lines = (m.documentation.flatMap reflowed).map escape := by
  rw [comment_eq, lines_ofSteps, List.flatMap_map]
  rfl

lemma Method.forall₂_isWrittenPiece (m : Method) (indent : Text) :
    List.Forall₂ (IsWrittenPiece indent) (m.documentation.flatMap reflowed)
      (m.comment.lines.map (renderLine indent)) := by
  have h := DocComment.forall₂_isWrittenPiece (m.documentation.map Step.text) indent
  rwa [← comment_eq, List.flatMap_map] at h

lemma Method.newline_notMem_render (m : Method) (owner : Owner) :
    ∀ l ∈ (m.declaration owner).comment.render ['\t'], '\n' ∉ l := by
  have hescaped : (m.declaration owner).comment.EscapedFrom ('\n' ∉ ·) :=
    m.escapedFrom_comment (fun _ h => h) owner
  exact hescaped.newline_notMem_render (by decide)

lemma Method.comment_congr {m n : Method} (hdescription : n.description = m.description)
    (harguments : n.arguments.map (fun a => (a.type, a.description)) =
      m.arguments.map fun a => (a.type, a.description))
    (hreturns : n.returnValues = m.returnValues) : n.comment = m.comment := by
  have hentries : ∀ as : List Argument, as.map Argument.entry =
      (as.map fun a => (a.type, a.description)).map fun e => entryText "@param" e.1 e.2 := by
    intro as
    rw [List.map_map]
    rfl
  rw [comment_eq, comment_eq, documentation, documentation, describing, describing, hdescription,
    hentries, harguments, ← hentries, hreturns]

/-! ### Counting lines -/

/-- The types and the descriptions of arguments and return values are on one line each. -/
structure Method.EntriesOnOneLine (m : Method) : Prop where
  arguments : ∀ a ∈ m.arguments,
    (∀ t ∈ a.type, '\n' ∉ t.toList) ∧ ∀ d ∈ a.description, '\n' ∉ d.toList
  returnValues : ∀ r ∈ m.returnValues,
    (∀ t ∈ r.type, '\n' ∉ t.toList) ∧ ∀ d ∈ r.description, '\n' ∉ d.toList

lemma newline_notMem_ifGiven {t : Option String} {f : String → Text}
    (h : ∀ s ∈ t, '\n' ∉ f s) : '\n' ∉ ifGiven t f := by
  intro hmem
  obtain ⟨s, hs, hmem⟩ := mem_of_mem_ifGiven hmem
  exact h s hs hmem

lemma newline_notMem_entryText {tag : String} (htag : '\n' ∉ tag.toList)
    {type description : Option String} (htype : ∀ t ∈ type, '\n' ∉ t.toList)
    (hdescription : ∀ d ∈ description, '\n' ∉ d.toList) :
    '\n' ∉ entryText tag type description := by
  rw [entryText, List.mem_append, List.mem_append, not_or, not_or]
  refine ⟨⟨htag, newline_notMem_ifGiven fun t ht => ?_⟩, newline_notMem_ifGiven fun d hd => ?_⟩
  · rw [List.mem_append, List.mem_append, not_or, not_or]
    have htoken : ∀ u ∈ some t, '\n' ∉ u.toList := fun u hu => Option.some.inj hu ▸ htype t ht
    exact ⟨⟨by decide, newline_notMem_mapType htoken _⟩, by decide⟩
  · rw [List.mem_cons, not_or]
    exact ⟨by decide, hdescription d hd⟩

lemma length_reflowed_of_notMem {t : Text} (h : '\n' ∉ t) : (reflowed t).length = 1 := by
  rw [reflowed, lines_of_notMem h]
  rfl

lemma length_flatMap_reflowed {ts : List Text} (h : ∀ t ∈ ts, '\n' ∉ t) :
    (ts.flatMap reflowed).length = ts.length := by
  induction ts with
  | nil => rfl
  | cons t ts ih =>
    rw [List.forall_mem_cons] at h
    rw [List.flatMap_cons, List.length_append, length_reflowed_of_notMem h.1, ih h.2,
      List.length_cons, Nat.add_comm]

lemma Method.length_documentation {m : Method} (h : m.EntriesOnOneLine) :
    (m.documentation.flatMap reflowed).length =
      (m.describing.flatMap reflowed).length + m.arguments.length + m.returnValues.length := by
  have harguments : ∀ t ∈ m.arguments.map Argument.entry, '\n' ∉ t := by
    refine List.forall_mem_map.mpr fun a ha => ?_
    obtain ⟨htype, hdescription⟩ := h.arguments a ha
    exact newline_notMem_entryText (by decide) htype hdescription
  have hreturns : ∀ t ∈ m.returnValues.map ReturnValue.entry, '\n' ∉ t := by
    refine List.forall_mem_map.mpr fun r hr => ?_
    obtain ⟨htype, hdescription⟩ := h.returnValues r hr
    exact newline_notMem_entryText (by decide) htype hdescription
  rw [documentation, List.flatMap_append, List.flatMap_append, List.length_append,
    List.length_append, length_flatMap_reflowed harguments, length_flatMap_reflowed hreturns,
    List.length_map, List.length_map]

/-- Above its signature a method has the lines of its description, of an entry for every argument,
and of an entry for every return value, in order and in one comment. Methods that are documented
alike have one comment, whatever their names, their arguments' names and marks and their owners, and
where entries are on one line each the comment has two lines more than there are lines of the
description and entries. -/
theorem method_comment_documents_all (m : Method) (owner : Owner) :
    (∃ inner, List.Forall₂ (IsWrittenPiece ['\t']) (m.documentation.flatMap reflowed) inner ∧
      (∀ l ∈ inner, '\n' ∉ l) ∧
      (m.declaration owner).lines = "\t/**".toList :: inner ++
        ["\t */".toList, '\t' :: (m.declaration owner).signature]) ∧
    (∀ (n : Method) (owner' : Owner), n.description = m.description →
      n.arguments.map (fun a => (a.type, a.description)) =
        m.arguments.map (fun a => (a.type, a.description)) →
      n.returnValues = m.returnValues →
      (n.declaration owner').comment = (m.declaration owner).comment) ∧
    (m.EntriesOnOneLine →
      ((m.declaration owner).comment.written ['\t']).records.length =
        2 + (m.describing.flatMap reflowed).length + m.arguments.length +
          m.returnValues.length) := by
  refine ⟨⟨m.comment.lines.map (renderLine ['\t']), m.forall₂_isWrittenPiece ['\t'], ?_, ?_⟩,
    fun n owner' hdescription harguments hreturns =>
      Method.comment_congr hdescription harguments hreturns, fun h => ?_⟩
  · intro l hl
    refine m.newline_notMem_render owner l ?_
    exact List.mem_append_left _ (List.mem_cons_of_mem _ hl)
  · rw [MemberDecl.lines, render, List.append_assoc]
    rfl
  · have hlength : ((m.declaration owner).comment.render ['\t']).length =
        2 + (m.documentation.flatMap reflowed).length := by
      rw [render, List.length_append, List.length_cons, List.length_map]
      change m.comment.lines.length + 1 + 1 = _
      rw [m.lines_comment, List.length_map]
      omega
    rw [written, records_unlines, List.length_map,
      flatMap_lines_eq_self (m.newline_notMem_render owner), hlength, m.length_documentation h]
    omega

/-- A callback that takes the argument behind it, an entry without type and description, and a
description of three lines. -/
theorem method_comment_documents_all_folded :
    let m : Method := {
      name := "observe"
      description := some "a\r\n\n*/"
      arguments := [{ name := "f", type := some "Function", description := some "Called." },
        { name := "p", type := some "Point" }, { name := "x", description := some "" }]
      returnValues := [{ type := some "Bool" }] }
    let n : Method := {
      name := "constructor"
      description := some "a\r\n\n*/"
      arguments := [{ name := "g", type := some "Function", description := some "Called." },
        { name := "q", type := some "Point", isOptional := true },
        { name := "", description := some "" }]
      returnValues := [{ type := some "Bool" }] }
    m.documentation.flatMap reflowed =
        ["a", "", "*/", "@param \x7bFunction\x7d Called.", "@param \x7bPoint\x7d", "@param",
          "@returns \x7bboolean\x7d"].map String.toList ∧
      (∃ inner, List.Forall₂ (IsWrittenPiece ['\t']) (m.documentation.flatMap reflowed) inner ∧
        (∀ l ∈ inner, '\n' ∉ l) ∧
        (m.declaration .classItself).lines = "\t/**".toList :: inner ++
          ["\t */".toList, "\tstatic observe(f: (p: IPoint, x: any) => void): boolean;".toList]) ∧
      (n.declaration .instances).comment = (m.declaration .classItself).comment ∧
      m.EntriesOnOneLine ∧
      ((m.declaration .classItself).comment.written ['\t']).records.length = 9 := by
  intro m n
  obtain ⟨hlines, hcongr, hcount⟩ := method_comment_documents_all m .classItself
  have hsignature : '\t' :: (m.declaration .classItself).signature =
      "\tstatic observe(f: (p: IPoint, x: any) => void): boolean;".toList := by decide +kernel
  have honeLine : m.EntriesOnOneLine := ⟨by decide, by decide⟩
  rw [hsignature] at hlines
  exact ⟨by decide +kernel, hlines, hcongr n .instances rfl rfl rfl, honeLine, hcount honeLine⟩

end AmbientDecls
