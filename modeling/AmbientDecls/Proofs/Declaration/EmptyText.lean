import AmbientDecls.Proofs.Declaration.MethodComment
import AmbientDecls.Proofs.Declaration.Parts
import AmbientDecls.Proofs.Declaration.ReturnUnion

/-!
# Empty and absent texts

An optional text that is empty is declared as if it were absent, and a class without a name as if it
had the name of its key, wherever in the metadata this is. So metadata that differ in nothing else
have one declaration. A file name is the exception: an empty one is written down as a line of the
class comment.
-/

namespace AmbientDecls

open DocComment Text

structure Argument.Alike (a b : Argument) : Prop where
  name : a.name = b.name
  type : SameText a.type b.type
  isOptional : a.isOptional = b.isOptional
  description : SameText a.description b.description

structure ReturnValue.Alike (r s : ReturnValue) : Prop where
  type : SameText r.type s.type
  description : SameText r.description s.description

structure Property.Alike (p q : Property) : Prop where
  name : p.name = q.name
  description : SameText p.description q.description
  summary : SameText p.summary q.summary

structure Method.Alike (m n : Method) : Prop where
  name : m.name = n.name
  description : SameText m.description n.description
  arguments : List.Forall₂ Argument.Alike m.arguments n.arguments
  returnValues : List.Forall₂ ReturnValue.Alike m.returnValues n.returnValues

/-- The classes differ in empty and absent texts, and where one has no name the other may have that
of the key. -/
structure ClassDoc.Alike (key : String) (c d : ClassDoc) : Prop where
  name : c.name = d.name ∨ (c.name = "" ∧ d.name = key) ∨ (c.name = key ∧ d.name = "")
  description : SameText c.description d.description
  filename : c.filename = d.filename
  superClass : SameText c.superClass d.superClass
  classProperties : List.Forall₂ Property.Alike c.classProperties d.classProperties
  instanceProperties : List.Forall₂ Property.Alike c.instanceProperties d.instanceProperties
  classMethods : List.Forall₂ Method.Alike c.classMethods d.classMethods
  instanceMethods : List.Forall₂ Method.Alike c.instanceMethods d.instanceMethods

/-- The tables have the same keys in the same order, and their classes differ in empty and absent
texts. -/
def Metadata.Alike (m n : Metadata) : Prop :=
  List.Forall₂ (fun e f => e.1 = f.1 ∧ e.2.Alike e.1 f.2) m.classes.entries n.classes.entries

lemma map_eq_of_forall₂ {α β : Type} {R : α → α → Prop} {f : α → β}
    (hf : ∀ x y, R x y → f x = f y) {xs ys : List α} (h : List.Forall₂ R xs ys) :
    xs.map f = ys.map f := by
  induction h with
  | nil => rfl
  | cons hxy _ ih => rw [List.map_cons, List.map_cons, hf _ _ hxy, ih]

lemma entryText_congr (tag : String) {type type' description description' : Option String}
    (ht : SameText type type') (hd : SameText description description') :
    entryText tag type description = entryText tag type' description' := by
  rw [entryText, entryText, ht.ifGiven_eq, hd.ifGiven_eq]

lemma groupArguments_congr {as bs : List Argument} (h : List.Forall₂ Argument.Alike as bs) :
    groupArguments as = groupArguments bs := by
  induction h with
  | nil => rfl
  | @cons a b as bs hab _ ih =>
    obtain ⟨name, type, isOptional, description⟩ := a
    obtain ⟨name', type', isOptional', description'⟩ := b
    obtain ⟨rfl, htype, rfl, -⟩ := hab
    rw [groupArguments, groupArguments, ih]
    -- An empty or absent type is no `Function` and no `Object`.
    cases htype with
    | refl => rfl
    | emptied => rfl
    | removed => rfl

lemma ReturnValue.Alike.declaredType?_eq {r s : ReturnValue} (h : r.Alike s) :
    r.declaredType? = s.declaredType? := by
  obtain ⟨type, description⟩ := r
  obtain ⟨type', description'⟩ := s
  obtain ⟨htype, -⟩ := h
  cases htype <;> rfl

lemma returnType_of_alike {rs qs : List ReturnValue} (h : List.Forall₂ ReturnValue.Alike rs qs) :
    returnType rs = returnType qs := by
  have hmap := map_eq_of_forall₂ (fun _ _ hrs => ReturnValue.Alike.declaredType?_eq hrs) h
  have hfilter : ∀ ps : List ReturnValue, ps.filterMap ReturnValue.declaredType? =
      (ps.map ReturnValue.declaredType?).filterMap id := by
    intro ps
    rw [List.filterMap_map]
    rfl
  apply returnType_congr
  · rw [← List.length_eq_zero_iff, ← List.length_eq_zero_iff, h.length_eq]
  · rw [returnTypes_eq, returnTypes_eq, hfilter, hmap, ← hfilter]

lemma Property.Alike.token_eq {p q : Property} (h : p.Alike q) : p.token = q.token := by
  obtain ⟨name, description, summary⟩ := p
  obtain ⟨name', description', summary'⟩ := q
  obtain ⟨-, -, hsummary⟩ := h
  cases hsummary <;> rfl

lemma Property.Alike.declaration_eq {p q : Property} (h : p.Alike q) (owner : Owner) :
    p.declaration owner = q.declaration owner := by
  have hform : ∀ r : Property, r.declaration owner =
      ⟨DocComment.text? {} r.description,
        owner.modifier ++ r.name.toList ++ ": ".toList ++
          (mapType r.token .other).toList ++ [';']⟩ := fun _ => rfl
  rw [hform, hform, text?_eq, text?_eq, h.description.ifGiven_eq, h.name, h.token_eq]

lemma Method.Alike.comment_eq {m n : Method} (h : m.Alike n) : m.comment = n.comment := by
  have harguments := map_eq_of_forall₂ (f := Argument.entry)
    (fun a b hab => entryText_congr "@param" hab.type hab.description) h.arguments
  have hreturns := map_eq_of_forall₂ (f := ReturnValue.entry)
    (fun r s hrs => entryText_congr "@returns" hrs.type hrs.description) h.returnValues
  rw [Method.comment_eq, Method.comment_eq, documentation, documentation, describing, describing,
    h.description.ifGiven_eq, harguments, hreturns]

lemma Method.Alike.declaration_eq {m n : Method} (h : m.Alike n) (owner : Owner) :
    m.declaration owner = n.declaration owner := by
  have hconstructor : m.isConstructor = n.isConstructor := by
    rw [isConstructor, isConstructor, h.name]
  rw [Method.declaration, Method.declaration, h.comment_eq, hconstructor, h.name,
    groupArguments_congr h.arguments, returnType_of_alike h.returnValues]

/-- The steps in which the comment of a class is collected. -/
def ClassDoc.commentSteps (c : ClassDoc) : List Step :=
  ifGiven c.description (fun d => [.text d.toList, .blank]) ++
    c.filename.toList.map fun f => .line ("file: ".toList ++ f.toList)

lemma ClassDoc.comment_eq_ofSteps (c : ClassDoc) : c.comment = ofSteps c.commentSteps := by
  unfold comment
  extract_lets described
  have hd : described = ofSteps (ifGiven c.description fun d => [.text d.toList, .blank]) := by
    unfold described
    cases c.description using optionalText_cases with
    | absent => rfl
    | empty => rfl
    | given d hne => simp [ifGiven_of_ne hne, ofSteps, add]
  rw [commentSteps, ofSteps, List.foldl_append, ← ofSteps, ← hd]
  cases c.filename <;> rfl

namespace ClassDoc.Alike

variable {key : String} {c d : ClassDoc} (h : c.Alike key d)

include h

lemma displayName_eq : c.displayName key = d.displayName key := by
  rw [displayName, displayName]
  rcases h.name with hname | ⟨hc, hd⟩ | ⟨hc, hd⟩
  · rw [hname]
  · rw [if_pos hc, hd, ite_self]
  · rw [if_pos hd, hc, ite_self]

lemma comment_eq : c.comment = d.comment := by
  rw [comment_eq_ofSteps, comment_eq_ofSteps, commentSteps, commentSteps,
    h.description.ifGiven_eq, h.filename]

lemma declaredBase_eq (o : ModuleOptions) : c.declaredBase o = d.declaredBase o := by
  unfold ClassDoc.declaredBase
  exact h.superClass.filter_eq (by simp)

lemma header_eq (o : ModuleOptions) : c.header key o = d.header key o := by
  unfold ClassDoc.header
  rw [h.displayName_eq, h.declaredBase_eq]

lemma memberGroups_eq : c.memberGroups = d.memberGroups := by
  have hproperties : ∀ owner ps qs, List.Forall₂ Property.Alike ps qs →
      ps.map (·.declaration owner) = qs.map (·.declaration owner) := fun owner _ _ =>
    map_eq_of_forall₂ fun _ _ hpq => hpq.declaration_eq owner
  have hmethods : ∀ owner ms ns, List.Forall₂ Method.Alike ms ns →
      ms.map (·.declaration owner) = ns.map (·.declaration owner) := fun owner _ _ =>
    map_eq_of_forall₂ fun _ _ hmn => hmn.declaration_eq owner
  rw [memberGroups, memberGroups, hproperties _ _ _ h.classProperties,
    hproperties _ _ _ h.instanceProperties, hmethods _ _ _ h.classMethods,
    hmethods _ _ _ h.instanceMethods]

lemma declaration_eq (o : ModuleOptions) : c.declaration key o = d.declaration key o := by
  rw [ClassDoc.declaration, ClassDoc.declaration, h.comment_eq, h.header_eq, h.memberGroups_eq]

end ClassDoc.Alike

lemma Metadata.Alike.declaration_eq {m n : Metadata} (h : m.Alike n) (o : ModuleOptions) :
    m.declaration o = n.declaration o := by
  have hclasses := map_eq_of_forall₂ (f := fun e : String × ClassDoc => e.2.declaration e.1 o)
    (fun e f ⟨hkey, hclass⟩ => by rw [← hkey, hclass.declaration_eq o]) h
  exact congrArg (ModuleDecl.mk o.name) hclasses

/-! ### File names -/

/-- One of the blocks can be put in by itself. -/
lemma exists_spaced_eq (bs cs : List (List Text)) :
    ∃ before after, ∀ b, spaced (bs ++ b :: cs) = before ++ b ++ after := by
  induction bs with
  | nil =>
    cases cs with
    | nil => exact ⟨[], [], fun b => (List.append_nil b).symm⟩
    | cons c cs => exact ⟨[], [] :: spaced (c :: cs), fun b => rfl⟩
  | cons a bs ih =>
    obtain ⟨before, after, h⟩ := ih
    refine ⟨a ++ [] :: before, after, fun b => ?_⟩
    obtain ⟨d, ds, hd⟩ := List.exists_cons_of_ne_nil (l := bs ++ b :: cs) (by simp)
    have hspaced : spaced (a :: (bs ++ b :: cs)) = a ++ [] :: spaced (bs ++ b :: cs) := by
      rw [hd, spaced]
    rw [List.cons_append, hspaced, h]
    simp

/-- A class can be put into a document by itself. -/
lemma exists_text_eq (o : ModuleOptions) (es fs : List (String × ClassDoc)) (key : String) :
    ∃ before after, ∀ (m : Metadata) (c : ClassDoc), m.classes.entries = es ++ (key, c) :: fs →
      (m.declaration o).text = before ++ unlines (c.declaration key o).lines ++ after := by
  let blocks := fun entries : List (String × ClassDoc) =>
    entries.map fun e => (e.2.declaration e.1 o).lines
  obtain ⟨before, after, hspaced⟩ := exists_spaced_eq (blocks es) (blocks fs)
  let header := ModuleDecl.header ⟨o.name, []⟩
  refine ⟨unlines (header :: before), unlines (after ++ [['\x7d']]), fun m c hm => ?_⟩
  have hheader : (m.declaration o).header = header := rfl
  have hblocks : (m.declaration o).classes.map ClassDecl.lines =
      blocks es ++ (c.declaration key o).lines :: blocks fs := by
    rw [Metadata.declaration, hm, List.map_map, List.map_append, List.map_cons]
    rfl
  rw [ModuleDecl.text, ModuleDecl.lines, hheader, hblocks, hspaced, ← unlines_append,
    ← unlines_append]
  simp only [List.cons_append, List.append_assoc]

lemma comment_of_filename_none {c : ClassDoc} (h : c.filename = none) :
    ({ c with filename := some "" } : ClassDoc).comment = c.comment.line "file: ".toList := by
  rw [ClassDoc.comment_eq_ofSteps, ClassDoc.comment_eq_ofSteps, ClassDoc.commentSteps,
    ClassDoc.commentSteps, h, Option.toList_none, List.map_nil, List.append_nil, ofSteps, ofSteps,
    List.foldl_append]
  rfl

/-- A file name changes the comment of a class and nothing below it. -/
lemma exists_lines_eq (c : ClassDoc) (key : String) (o : ModuleOptions) :
    ∃ rest, ∀ filename, (({ c with filename := filename } : ClassDoc).declaration key o).lines =
      ({ c with filename := filename } : ClassDoc).comment.render [] ++ rest := by
  let groups := (c.declaration key o).groups.map (·.flatMap MemberDecl.lines)
  refine ⟨c.header key o :: spaced groups ++ [['\x7d']], fun filename => ?_⟩
  rw [ClassDecl.lines, List.append_assoc]
  rfl

lemma exists_render_line (d : DocComment) (indent l : Text) :
    ∃ first last, d.render indent = first ++ last ∧
      (d.line l).render indent = first ++ renderLine indent (escape l) :: last := by
  refine ⟨(indent ++ "/**".toList) :: d.lines.map (renderLine indent), [indent ++ " */".toList],
    rfl, ?_⟩
  rw [render, DocComment.line, List.map_append, List.cons_append, List.append_assoc,
    List.cons_append]
  rfl

/-- Metadata that differ in empty and absent texts alone, other than file names, have one document.
An empty file name in place of an absent one is a line more in the comment of its class. -/
theorem empty_text_is_absent (o : ModuleOptions) :
    (∀ m n : Metadata, m.Alike n → (m.declaration o).text = (n.declaration o).text) ∧
    ∀ (m n : Metadata) (es fs : List (String × ClassDoc)) (key : String) (c : ClassDoc),
      m.classes.entries = es ++ (key, c) :: fs → c.filename = none →
      n.classes.entries = es ++ (key, { c with filename := some "" }) :: fs →
      ∃ before after, (m.declaration o).text = before ++ after ∧
        (n.declaration o).text = before ++ " * file: \n".toList ++ after := by
  refine ⟨fun m n h => by rw [h.declaration_eq o], fun m n es fs key c hm hnone hn => ?_⟩
  obtain ⟨before, after, htext⟩ := exists_text_eq o es fs key
  obtain ⟨rest, hlines⟩ := exists_lines_eq c key o
  obtain ⟨first, last, hrender, hrenderLine⟩ := exists_render_line c.comment [] "file: ".toList
  have habsent : (c.declaration key o).lines = first ++ last ++ rest := by
    rw [← hrender]
    exact hlines c.filename
  have hempty : (({ c with filename := some "" } : ClassDoc).declaration key o).lines =
      first ++ " * file: ".toList :: last ++ rest := by
    rw [hlines, comment_of_filename_none hnone, hrenderLine]
    rfl
  refine ⟨before ++ unlines first, unlines (last ++ rest) ++ after, ?_, ?_⟩
  · rw [htext m c hm, habsent]
    simp only [unlines_append, List.append_assoc]
  · rw [htext n _ hn, hempty]
    simp [unlines_append]

/-- A text in all places where an empty one is as good as none, for a class under the key `A`. -/
def sparseMetadata (t : Option String) (name : String) (filename : Option String) : Metadata where
  classes := {
    entries := [("A", {
      name := name
      description := t
      filename := filename
      superClass := t
      classProperties := [{ name := "p", description := t, summary := t }]
      instanceMethods := [{
        name := "go"
        description := t
        arguments := [{ name := "f", type := some "Function" },
          { name := "a", type := t, description := t }]
        returnValues := [{ type := t, description := t }] }] })] }

theorem empty_text_is_absent_everywhere :
    let m := sparseMetadata none "" none
    let n := sparseMetadata (some "") "A" none
    m.Alike n ∧ (m.declaration {}).text = (n.declaration {}).text ∧
      ∃ before after, (m.declaration {}).text = before ++ after ∧
        ((sparseMetadata none "" (some "")).declaration {}).text =
          before ++ " * file: \n".toList ++ after := by
  intro m n
  have halike : m.Alike n := by
    refine .cons ⟨rfl, .inr (.inl ⟨rfl, rfl⟩), .emptied, rfl, .emptied, ?_, .nil, .nil, ?_⟩ .nil
    · exact .cons ⟨rfl, .emptied, .emptied⟩ .nil
    · refine .cons ⟨rfl, .emptied, ?_, .cons ⟨.emptied, .emptied⟩ .nil⟩ .nil
      exact .cons ⟨rfl, .refl _, rfl, .refl _⟩ (.cons ⟨rfl, .emptied, rfl, .emptied⟩ .nil)
  obtain ⟨hsame, hfile⟩ := empty_text_is_absent {}
  exact ⟨halike, hsame m n halike,
    hfile m (sparseMetadata none "" (some "")) [] [] "A" _ rfl rfl rfl⟩

end AmbientDecls
