import AmbientDecls.Proofs.Declaration.Signatures

/-!
# The outline of a raw document

Without its documentation blocks a raw document is exactly what the metadata declares: the header
of the module, every class in the order of the table with its header and a line for every member,
and the lines that close them (`outline_declaration`). The outline is told from the metadata alone,
and the blocks are found again in the text, so nothing that is documented is lost, comes twice or
changes places, and no documentation text opens or ends a block.
-/

namespace AmbientDecls

open Text

def Property.outline (modifier : String) (p : Property) : Text :=
  "\t".toList ++ modifier.toList ++ p.name.toList ++ ": ".toList ++
    (mapType p.token .other).toList ++ ";".toList

def Method.outline (modifier : String) (m : Method) : Text :=
  "\t".toList ++ modifier.toList ++ m.name.toList ++ "(".toList ++
    TypeExpr.textOfParams (groupArguments m.arguments) ++ ")".toList ++
    (if m.name = "constructor" then [] else ": ".toList ++ returnType m.returnValues) ++ ";".toList

def ClassDoc.extendsClause (c : ClassDoc) (o : ModuleOptions) : Text :=
  match c.superClass with
  | none => []
  | some base =>
    if base = "" ∨ base = o.implicitBase then [] else " extends ".toList ++ base.toList

/-- The lines that declare a class: one for every member, with an empty line between two kinds of
members that are both there. -/
def ClassDoc.outline (c : ClassDoc) (key : String) (o : ModuleOptions) : List Text :=
  let members : List (List Text) :=
    [c.classProperties.map (·.outline "static "), c.instanceProperties.map (·.outline ""),
      c.classMethods.map (·.outline "static "), c.instanceMethods.map (·.outline "")]
  ("class ".toList ++ (c.displayName key).toList ++ c.extendsClause o ++ " \x7b".toList) ::
    [([] : Text)].intercalate (members.filter (! ·.isEmpty)) ++ ["\x7d".toList]

/-- The lines that declare a module, with an empty line between two classes. -/
def Metadata.outline (m : Metadata) (o : ModuleOptions) : List Text :=
  ("declare module ".toList ++ o.name.toList ++ " \x7b".toList) ::
    [([] : Text)].intercalate (m.classes.entries.map fun e => e.2.outline e.1 o) ++
    ["\x7d".toList]

/-- The lines outside of documentation blocks; a block goes from a line that starts with `/**` to
the next line that holds an end mark. `inside` is whether a block is open. -/
def outsideDocBlocks : (inside : Bool) → List Text → List Text
  | _, [] => []
  | false, l :: rest =>
    if "/**".toList.isPrefixOf l.trim then outsideDocBlocks true rest
    else l :: outsideDocBlocks false rest
  | true, l :: rest => outsideDocBlocks (! Text.includes "*/".toList l) rest

lemma outsideDocBlocks_inner {ls : List Text} (h : ∀ l ∈ ls, ¬['*', '/'] <:+: l)
    (rest : List Text) : outsideDocBlocks true (ls ++ rest) = outsideDocBlocks true rest := by
  induction ls with
  | nil => rfl
  | cons l ls ih =>
    rw [List.forall_mem_cons] at h
    have hi : Text.includes "*/".toList l = false := (includes_eq_false_iff _ _).mpr h.1
    rw [List.cons_append, outsideDocBlocks, hi]
    exact ih h.2

theorem outsideDocBlocks_block {indent : Text} (hindent : IsBlankText indent) (hn : '\n' ∉ indent)
    {P : Text → Prop} {d : DocComment} (hd : d.EscapedFrom P) (rest : List Text) :
    outsideDocBlocks false (((d.render indent).flatMap Text.lines).map dropReturn ++ rest) =
      outsideDocBlocks false rest := by
  have hopen : "/**".toList.isPrefixOf (indent ++ "/**".toList).dropReturn.trim = true := by
    rw [trim_dropReturn, trim_blank_append hindent]
    rfl
  have hinner : ∀ l ∈ ((d.lines.map (DocComment.renderLine indent)).flatMap Text.lines).map dropReturn,
      ¬['*', '/'] <:+: l := by
    refine List.forall_mem_map.mpr fun l hl hi => ?_
    exact hd.end_notInfix_inner hindent l hl (hi.trans l.dropReturn_isPrefix.isInfix)
  have hclose : (indent ++ " */".toList).dropReturn = indent ++ " */".toList :=
    dropReturn_append indent (by decide) (by decide)
  have hend : Text.includes "*/".toList (indent ++ " */".toList) = true :=
    (includes_iff_isInfix _ _).mpr ⟨indent ++ [' '], [], by simp⟩
  rw [DocComment.flatMap_lines_render hn, List.cons_append, List.map_cons, List.map_append,
    List.map_singleton, hclose, List.cons_append, outsideDocBlocks, if_pos hopen, List.append_assoc,
    outsideDocBlocks_inner hinner, List.singleton_append, outsideDocBlocks, hend]
  rfl

/-- A line that opens no block. -/
structure IsPlain (t : Text) : Prop extends IsRecord t where
  mark : ¬"/**".toList <+: t.trim

lemma outsideDocBlocks_plain {t : Text} (h : IsPlain t) (rest : List Text) :
    outsideDocBlocks false (t :: rest) = t :: outsideDocBlocks false rest := by
  have hm : ¬"/**".toList.isPrefixOf t.trim = true := by
    rw [List.isPrefixOf_iff_prefix]
    exact h.mark
  rw [outsideDocBlocks, if_neg hm]

/-- What a part leaves outside of blocks. -/
def Part.outside : Part → List Text
  | comment _ _ => []
  | line _ text => [text]
  | blank => [[]]

/-- Nothing but the comments is left out. -/
theorem outsideDocBlocks_parts {P : Text → Prop} {ps : List Part}
    (hps : ∀ p ∈ ps, p.All (DocComment.EscapedFrom P) IsPlain) :
    outsideDocBlocks false (((ps.flatMap Part.lines).flatMap Text.lines).map dropReturn) =
      ps.flatMap Part.outside := by
  induction ps with
  | nil => rfl
  | cons p ps ih =>
    rw [List.forall_mem_cons] at hps
    rw [List.flatMap_cons, List.flatMap_append, List.map_append, List.flatMap_cons, ← ih hps.2]
    cases p with
    | comment depth doc =>
      exact outsideDocBlocks_block (Part.isBlankText_indent depth)
        (Part.newline_notMem_indent depth) hps.1 _
    | line depth text =>
      have hplain : IsPlain text := hps.1
      rw [Part.lines, List.flatMap_singleton, hplain.map_dropReturn_lines]
      exact outsideDocBlocks_plain hplain _
    | blank => rfl

lemma IsHeader.isPlain {t : Text} (h : IsHeader t) : IsPlain t where
  toIsRecord := h.isRecord
  mark := by
    intro hm
    rw [h.trim_eq] at hm
    obtain ⟨rest, rfl⟩ := hm
    exact h.head_ne (c := '/') (by decide) (by decide) rfl

lemma IsSignature.isPlain {name t : Text} (h : IsSignature name t)
    (hname : ¬"/*".toList <+: name.trimStart) : IsPlain ('\t' :: t) where
  toIsRecord := h.isRecord_tab
  mark := fun hm =>
    hname (h.prefix_of_prefix_trim_tab (List.IsPrefix.trans ⟨['*'], rfl⟩ hm) (by decide) (by decide))

lemma isPlain_closing : IsPlain ['\x7d'] := ⟨isRecord_closing, by decide⟩

/-- No instance member has a name that opens a comment. -/
def Metadata.NamesOpenNoComment (m : Metadata) : Prop :=
  ∀ e ∈ m.classes.entries, ∀ n ∈ e.2.instanceNames, ¬"/*".toList <+: trimStart n.toList

lemma Metadata.forall_mem_parts_isPlain {m : Metadata} {o : ModuleOptions} (h : m.OneLine o)
    (hnames : m.NamesOpenNoComment) :
    ∀ p ∈ (m.declaration o).parts, p.All (DocComment.EscapedFrom fun _ => True) IsPlain := by
  apply Metadata.forall_mem_parts
  · exact fun _ _ => trivial
  · exact fun _ _ _ _ => trivial
  · exact (ModuleDecl.isHeader h.moduleName).isPlain
  · intro e he
    exact ((h.classes e he).isHeader o).isPlain
  · intro e he g hg d hd
    obtain ⟨name, hname, hsig⟩ :=
      (h.classes e he).forall_mem_groups (N := fun n => ¬"/*".toList <+: trimStart n) o
        (fun name => not_prefix_trimStart_static name (by decide) _) (hnames e he) g hg d hd
    exact hsig.isPlain hname
  · exact isPlain_closing

/-! ### The outline in the text -/

lemma Property.outline_eq (p : Property) {owner : Owner} {modifier : String}
    (h : owner.modifier = modifier.toList) :
    '\t' :: (p.declaration owner).signature = p.outline modifier := by
  rw [outline, ← h]
  rfl

lemma Method.outline_eq (m : Method) {owner : Owner} {modifier : String}
    (h : owner.modifier = modifier.toList) :
    '\t' :: (m.declaration owner).signature = m.outline modifier := by
  have hc : (m.isConstructor = true) = (m.name = "constructor") := by rw [isConstructor, beq_iff_eq]
  simp only [outline, declaration, ← h, hc]
  simp

lemma ClassDoc.declaredBase_eq {c : ClassDoc} {base : String} (h : c.superClass = some base)
    (o : ModuleOptions) :
    c.declaredBase o = if base = "" ∨ base = o.implicitBase then none else some base := by
  have hf : (base ≠ "" && base ≠ o.implicitBase) = ! decide (base = "" ∨ base = o.implicitBase) := by
    simp
  rw [declaredBase, h, Option.filter_some, hf]
  by_cases hb : base = "" ∨ base = o.implicitBase
  · rw [if_pos hb, decide_eq_true hb]
    rfl
  · rw [if_neg hb, decide_eq_false hb]
    rfl

lemma ClassDoc.header_eq (c : ClassDoc) (key : String) (o : ModuleOptions) :
    c.header key o =
      "class ".toList ++ (c.displayName key).toList ++ c.extendsClause o ++ " \x7b".toList := by
  unfold header extendsClause
  cases hs : c.superClass with
  | none =>
    have hb : c.declaredBase o = none := by
      rw [declaredBase, hs]
      rfl
    rw [hb]
  | some base =>
    rw [declaredBase_eq hs]
    by_cases hb : base = "" ∨ base = o.implicitBase
    · simp only [if_pos hb]
    · simp only [if_neg hb]

def MemberDecl.outline (m : MemberDecl) : Text := '\t' :: m.signature

lemma ClassDoc.memberGroups_eq (c : ClassDoc) :
    c.memberGroups.map (·.map MemberDecl.outline) =
      [c.classProperties.map (·.outline "static "), c.instanceProperties.map (·.outline ""),
        c.classMethods.map (·.outline "static "), c.instanceMethods.map (·.outline "")] := by
  have hs : Owner.classItself.modifier = "static ".toList := rfl
  have hi : Owner.instances.modifier = "".toList := rfl
  simp only [memberGroups, List.map_cons, List.map_nil, List.map_map, Function.comp_def,
    MemberDecl.outline, Property.outline_eq _ hs, Property.outline_eq _ hi, Method.outline_eq _ hs,
    Method.outline_eq _ hi]

lemma ClassDecl.flatMap_outside (c : ClassDecl) :
    c.parts.flatMap Part.outside =
      c.header :: [([] : Text)].intercalate (c.groups.map (·.map MemberDecl.outline)) ++
        [['\x7d']] := by
  have hg : (c.groups.map (·.flatMap MemberDecl.parts)).map (·.flatMap Part.outside) =
      c.groups.map (·.map MemberDecl.outline) := by
    rw [List.map_map]
    refine List.map_congr_left fun g _ => ?_
    rw [Function.comp_apply, List.flatMap_assoc, List.map_eq_flatMap]
    rfl
  rw [parts, List.flatMap_append, List.flatMap_cons, List.flatMap_cons, flatMap_intercalate, hg]
  rfl

lemma ClassDoc.flatMap_outside (c : ClassDoc) (key : String) (o : ModuleOptions) :
    (c.declaration key o).parts.flatMap Part.outside = c.outline key o := by
  have hg : (c.declaration key o).groups.map (·.map MemberDecl.outline) =
      (c.memberGroups.map (·.map MemberDecl.outline)).filter (! ·.isEmpty) := by
    rw [declaration, List.filter_map]
    refine congrArg (List.map _) (List.filter_congr fun g _ => ?_)
    rw [Function.comp_apply, List.isEmpty_map]
  rw [ClassDecl.flatMap_outside, hg, memberGroups_eq]
  exact congrArg (· :: _ ++ _) (c.header_eq key o)

lemma Metadata.flatMap_outside (m : Metadata) (o : ModuleOptions) :
    (m.declaration o).parts.flatMap Part.outside = m.outline o := by
  have hc : ((m.declaration o).classes.map ClassDecl.parts).map (·.flatMap Part.outside) =
      m.classes.entries.map fun e => e.2.outline e.1 o := by
    rw [declaration, List.map_map, List.map_map]
    exact List.map_congr_left fun e _ => e.2.flatMap_outside e.1 o
  rw [ModuleDecl.parts, List.flatMap_append, List.flatMap_cons, flatMap_intercalate, hc]
  rfl

/-- The lines of a raw document outside of its documentation blocks are the outline of the metadata:
no documented member is lost, repeated or moved, and the documentation texts play no role. -/
theorem outline_declaration (m : Metadata) (o : ModuleOptions) (h : m.OneLine o)
    (hnames : m.NamesOpenNoComment) :
    outsideDocBlocks false (m.declaration o).text.records = m.outline o := by
  rw [ModuleDecl.records_text, outsideDocBlocks_parts (m.forall_mem_parts_isPlain h hnames),
    m.flatMap_outside]

theorem outline_declaration_sample :
    sampleMetadata.OneLine {} ∧ sampleMetadata.NamesOpenNoComment ∧
      outsideDocBlocks false (sampleMetadata.declaration {}).text.records =
        ["declare module AtomTypes \x7b", "class A \x7b", "\tstatic */: number;", "",
          "\tconstructor(f: (x: /*) => void);", "\tgo(): \x7d \x7b;", "\x7d", "",
          "class B extends A \x7b", "\x7d", "\x7d"].map String.toList := by
  have hnames : sampleMetadata.NamesOpenNoComment := by
    unfold Metadata.NamesOpenNoComment
    decide
  exact ⟨oneLine_sampleMetadata, hnames,
    outline_declaration sampleMetadata {} oneLine_sampleMetadata hnames⟩

end AmbientDecls
