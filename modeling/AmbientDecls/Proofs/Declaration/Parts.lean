import AmbientDecls.Declaration.OfMetadata
import AmbientDecls.Proofs.DocComment

/-!
# Parts of a raw document

A raw document is a sequence of comments, other lines, and empty lines between blocks. Seen as
these parts, each with the number of blocks it stands in, it is read by going from part to part:
`lines_eq_parts` says that nothing else is written, and `forall_mem_parts` reduces what holds of
all parts to what holds of the comments, headers and signatures of the module.
-/

namespace AmbientDecls

/-- A stretch of a raw document. -/
inductive Part where
  /-- A comment in so many blocks. -/
  | comment (depth : Nat) (doc : DocComment)
  /-- A line that opens, closes or declares something in so many blocks. -/
  | line (depth : Nat) (text : Text)
  /-- The empty line between two blocks. -/
  | blank

namespace Part

/-- What stands before the lines of a comment. The raw document leaves out the indentation by the
module. -/
def indent (depth : Nat) : Text := List.replicate (depth - 1) '\t'

lemma isBlankText_indent (depth : Nat) : Text.IsBlankText (indent depth) :=
  Text.isBlankText_replicate rfl _

lemma newline_notMem_indent (depth : Nat) : '\n' ∉ indent depth := fun h =>
  absurd (List.eq_of_mem_replicate h) (by decide)

/-- The lines of a part. -/
def lines : Part → List Text
  | comment depth doc => doc.render (indent depth)
  | line _ text => [text]
  | blank => [[]]

/-- A property of the comments and one of the other lines. -/
def All (C : DocComment → Prop) (L : Text → Prop) : Part → Prop
  | comment _ doc => C doc
  | line _ text => L text
  | blank => True

end Part

def MemberDecl.parts (m : MemberDecl) : List Part :=
  [.comment 2 m.comment, .line 2 ('\t' :: m.signature)]

def ClassDecl.parts (c : ClassDecl) : List Part :=
  .comment 1 c.comment :: .line 1 c.header ::
    [Part.blank].intercalate (c.groups.map (·.flatMap MemberDecl.parts)) ++ [.line 1 ['}']]

def ModuleDecl.parts (m : ModuleDecl) : List Part :=
  .line 0 m.header :: [Part.blank].intercalate (m.classes.map ClassDecl.parts) ++ [.line 0 ['}']]

lemma spaced_eq_intercalate (blocks : List (List Text)) :
    spaced blocks = [([] : Text)].intercalate blocks := by
  induction blocks with
  | nil => rfl
  | cons b bs ih =>
    cases bs with
    | nil => rw [spaced, List.intercalate_singleton]
    | cons c cs =>
      rw [spaced, ih, List.intercalate_cons_cons, List.append_assoc]
      rfl

lemma flatMap_intercalate {α β : Type} (f : α → List β) (separator : List α)
    (blocks : List (List α)) :
    (separator.intercalate blocks).flatMap f =
      (separator.flatMap f).intercalate (blocks.map (·.flatMap f)) := by
  induction blocks with
  | nil => rfl
  | cons b bs ih =>
    cases bs with
    | nil => simp only [List.intercalate_singleton, List.map_cons, List.map_nil]
    | cons c cs =>
      rw [List.intercalate_cons_cons, List.flatMap_append, List.flatMap_append, ih]
      simp only [List.map_cons, List.intercalate_cons_cons]

lemma forall_mem_intercalate {α : Type} {P : α → Prop} {separator : List α}
    {blocks : List (List α)} (hs : ∀ x ∈ separator, P x) (hb : ∀ b ∈ blocks, ∀ x ∈ b, P x) :
    ∀ x ∈ separator.intercalate blocks, P x := by
  induction blocks with
  | nil => exact fun _ h => absurd h List.not_mem_nil
  | cons b bs ih =>
    rw [List.forall_mem_cons] at hb
    cases bs with
    | nil =>
      rw [List.intercalate_singleton]
      exact hb.1
    | cons c cs =>
      rw [List.intercalate_cons_cons]
      exact List.forall_mem_append.mpr ⟨List.forall_mem_append.mpr ⟨hb.1, hs⟩, ih hb.2⟩

lemma MemberDecl.lines_eq_parts (m : MemberDecl) : m.lines = m.parts.flatMap Part.lines := by
  simp only [lines, parts, List.flatMap_cons, List.flatMap_nil, Part.lines, List.append_nil]
  rfl

lemma ClassDecl.lines_eq_parts (c : ClassDecl) : c.lines = c.parts.flatMap Part.lines := by
  have hg : c.groups.map (·.flatMap MemberDecl.lines) =
      (c.groups.map (·.flatMap MemberDecl.parts)).map (·.flatMap Part.lines) := by
    rw [List.map_map]
    refine List.map_congr_left fun g _ => ?_
    rw [Function.comp_apply, List.flatMap_assoc, funext MemberDecl.lines_eq_parts]
  rw [lines, parts, hg, spaced_eq_intercalate]
  simp only [List.flatMap_append, List.flatMap_cons, List.flatMap_nil, flatMap_intercalate,
    Part.lines, Part.indent, Nat.sub_self, List.replicate_zero, List.append_nil, List.nil_append,
    List.cons_append, List.append_assoc]

/-- Nothing is written but the lines of the parts. -/
theorem ModuleDecl.lines_eq_parts (m : ModuleDecl) : m.lines = m.parts.flatMap Part.lines := by
  have hc : m.classes.map ClassDecl.lines =
      (m.classes.map ClassDecl.parts).map (·.flatMap Part.lines) := by
    rw [List.map_map]
    exact List.map_congr_left fun c _ => c.lines_eq_parts
  rw [lines, parts, hc, spaced_eq_intercalate]
  simp only [List.flatMap_append, List.flatMap_cons, List.flatMap_nil, flatMap_intercalate,
    Part.lines, List.append_nil, List.nil_append, List.cons_append]

lemma ModuleDecl.text_eq_parts (m : ModuleDecl) : m.text = Text.unlines (m.parts.flatMap Part.lines) := by
  rw [text, lines_eq_parts]

lemma ModuleDecl.lines_text (m : ModuleDecl) :
    m.text.lines = (m.parts.flatMap Part.lines).flatMap Text.lines ++ [[]] := by
  rw [text_eq_parts, Text.lines_unlines]

lemma ModuleDecl.records_text (m : ModuleDecl) :
    m.text.records = ((m.parts.flatMap Part.lines).flatMap Text.lines).map Text.dropReturn := by
  rw [text_eq_parts, Text.records_unlines]

variable {C : DocComment → Prop} {L : Text → Prop}

def MemberDecl.All (C : DocComment → Prop) (L : Text → Prop) (m : MemberDecl) : Prop :=
  C m.comment ∧ L ('\t' :: m.signature)

def ClassDecl.All (C : DocComment → Prop) (L : Text → Prop) (c : ClassDecl) : Prop :=
  C c.comment ∧ L c.header ∧ ∀ g ∈ c.groups, ∀ m ∈ g, m.All C L

lemma MemberDecl.forall_mem_parts {m : MemberDecl} (h : m.All C L) :
    ∀ p ∈ m.parts, p.All C L := by
  rw [parts, List.forall_mem_cons, List.forall_mem_singleton]
  exact h

lemma ClassDecl.forall_mem_parts {c : ClassDecl} (h : c.All C L) (hclose : L ['}']) :
    ∀ p ∈ c.parts, p.All C L := by
  obtain ⟨hc, hh, hg⟩ := h
  rw [parts, List.forall_mem_append, List.forall_mem_cons, List.forall_mem_cons,
    List.forall_mem_singleton]
  refine ⟨⟨hc, hh, ?_⟩, hclose⟩
  apply forall_mem_intercalate
  · exact List.forall_mem_singleton.mpr trivial
  · intro b hb p hp
    obtain ⟨g, hgm, rfl⟩ := List.mem_map.mp hb
    obtain ⟨m, hm, hp⟩ := List.mem_flatMap.mp hp
    exact MemberDecl.forall_mem_parts (hg g hgm m hm) p hp

/-- What holds of the comments, headers and signatures of a module, and of a closing line, holds of
all its parts. -/
theorem ModuleDecl.forall_mem_parts {m : ModuleDecl} (hh : L m.header)
    (hc : ∀ c ∈ m.classes, c.All C L) (hclose : L ['}']) : ∀ p ∈ m.parts, p.All C L := by
  rw [parts, List.forall_mem_append, List.forall_mem_cons, List.forall_mem_singleton]
  refine ⟨⟨hh, ?_⟩, hclose⟩
  apply forall_mem_intercalate
  · exact List.forall_mem_singleton.mpr trivial
  · intro b hb
    obtain ⟨c, hcm, rfl⟩ := List.mem_map.mp hb
    exact ClassDecl.forall_mem_parts (hc c hcm) hclose

/-- What holds of the declarations of the properties and methods of a class holds of all members
that are written. -/
lemma ClassDoc.forall_mem_groups {Q : MemberDecl → Prop} {c : ClassDoc}
    (hcp : ∀ p ∈ c.classProperties, Q (p.declaration .classItself))
    (hip : ∀ p ∈ c.instanceProperties, Q (p.declaration .instances))
    (hcm : ∀ m ∈ c.classMethods, Q (m.declaration .classItself))
    (him : ∀ m ∈ c.instanceMethods, Q (m.declaration .instances)) (key : String)
    (o : ModuleOptions) : ∀ g ∈ (c.declaration key o).groups, ∀ m ∈ g, Q m := by
  intro g hg
  have hg' : g ∈ c.memberGroups := (List.mem_filter.mp hg).1
  simp only [memberGroups, List.mem_cons, List.not_mem_nil, or_false] at hg'
  rcases hg' with rfl | rfl | rfl | rfl
  · exact List.forall_mem_map.mpr hcp
  · exact List.forall_mem_map.mpr hip
  · exact List.forall_mem_map.mpr hcm
  · exact List.forall_mem_map.mpr him

/-! ### Declared metadata -/

section Metadata

variable {P : Text → Prop} (hP : ∀ t, '\n' ∉ t → P t)

include hP

lemma Property.escapedFrom_comment (p : Property) (owner : Owner) :
    (p.declaration owner).comment.EscapedFrom P :=
  DocComment.escapedFrom_empty.text? hP _

lemma Method.escapedFrom_comment (m : Method) (owner : Owner) :
    (m.declaration owner).comment.EscapedFrom P := by
  have hd : (DocComment.text? {} m.description).EscapedFrom P :=
    DocComment.escapedFrom_empty.text? hP _
  exact (hd.foldl_text hP _ m.arguments).foldl_text hP _ m.returnValues

/-- Only the file name goes into a comment as one line. -/
lemma ClassDoc.escapedFrom_comment (c : ClassDoc)
    (hf : ∀ f ∈ c.filename, P ("file: ".toList ++ f.toList)) : c.comment.EscapedFrom P := by
  unfold ClassDoc.comment
  extract_lets described
  have hd : described.EscapedFrom P := by
    unfold described
    split
    · exact DocComment.escapedFrom_empty
    · exact (DocComment.escapedFrom_empty.text hP _).blank hP
  cases hfile : c.filename with
  | none => exact hd
  | some f => exact hd.line (hf f hfile)

lemma ClassDoc.escapedFrom_comment_of_mem (c : ClassDoc) (key : String) (o : ModuleOptions) :
    ∀ g ∈ (c.declaration key o).groups, ∀ d ∈ g, d.comment.EscapedFrom P :=
  ClassDoc.forall_mem_groups (fun p _ => p.escapedFrom_comment hP _)
    (fun p _ => p.escapedFrom_comment hP _) (fun m _ => m.escapedFrom_comment hP _)
    (fun m _ => m.escapedFrom_comment hP _) key o

/-- Comments are made of escaped text, so of the parts of declared metadata only the file names and
the lines outside of comments are to be looked at. -/
theorem Metadata.forall_mem_parts {m : Metadata} {o : ModuleOptions}
    (hf : ∀ e ∈ m.classes.entries, ∀ f ∈ e.2.filename, P ("file: ".toList ++ f.toList))
    (hh : L (m.declaration o).header) (hc : ∀ e ∈ m.classes.entries, L (e.2.header e.1 o))
    (hm : ∀ e ∈ m.classes.entries, ∀ g ∈ (e.2.declaration e.1 o).groups, ∀ d ∈ g,
      L ('\t' :: d.signature))
    (hclose : L ['}']) : ∀ p ∈ (m.declaration o).parts, p.All (DocComment.EscapedFrom P) L := by
  apply ModuleDecl.forall_mem_parts hh _ hclose
  intro c hcm
  obtain ⟨e, he, rfl⟩ := List.mem_map.mp hcm
  refine ⟨e.2.escapedFrom_comment hP (hf e he), hc e he, ?_⟩
  intro g hg d hd
  exact ⟨e.2.escapedFrom_comment_of_mem hP e.1 o g hg d hd, hm e he g hg d hd⟩

end Metadata

end AmbientDecls
