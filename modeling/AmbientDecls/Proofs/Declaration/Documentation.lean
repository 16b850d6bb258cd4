import AmbientDecls.Proofs.Declaration.Parts
import AmbientDecls.Proofs.Layout.Comments
import AmbientDecls.Proofs.Text.Comments

/-!
# Documentation text and declarations

Two metadata tables that differ in descriptions and file names alone declare the same: their raw
documents are equal but for the comments, and they are laid out alike. Both are compared with the
module whose comments are empty. A written comment, whatever it holds and whether or not a name or
a token before it has opened a comment, leaves a scanner of characters (`withoutComments_block`)
and the cursor of the layout (`Layout.Cursor.run_block`) as the empty comment leaves them.
-/

namespace AmbientDecls

open Text

def Argument.undocumented (a : Argument) : Argument := { a with description := none }

def ReturnValue.undocumented (r : ReturnValue) : ReturnValue := { r with description := none }

/-- The property without its description; its summary holds its type. -/
def Property.undocumented (p : Property) : Property := { p with description := none }

def Method.undocumented (m : Method) : Method :=
  { m with
    description := none
    arguments := m.arguments.map Argument.undocumented
    returnValues := m.returnValues.map ReturnValue.undocumented }

def ClassDoc.undocumented (c : ClassDoc) : ClassDoc :=
  { c with
    description := none
    filename := none
    classProperties := c.classProperties.map Property.undocumented
    instanceProperties := c.instanceProperties.map Property.undocumented
    classMethods := c.classMethods.map Method.undocumented
    instanceMethods := c.instanceMethods.map Method.undocumented }

def Table.mapValues {α β : Type} (f : α → β) (t : Table α) : Table β where
  entries := t.entries.map fun e => (e.1, f e.2)
  nodup := by simpa [Function.comp_def] using t.nodup

/-- The metadata without documentation text: two tables differ in descriptions and file names alone
when they are equal without them. -/
def Metadata.undocumented (m : Metadata) : Metadata := ⟨m.classes.mapValues ClassDoc.undocumented⟩

/-- The part with an empty comment in place of a comment. -/
def Part.bare : Part → Part
  | comment depth _ => comment depth {}
  | line depth text => line depth text
  | blank => blank

def MemberDecl.bare (m : MemberDecl) : MemberDecl := { m with comment := {} }

def ClassDecl.bare (c : ClassDecl) : ClassDecl :=
  { c with comment := {}, groups := c.groups.map (·.map MemberDecl.bare) }

def ModuleDecl.bare (m : ModuleDecl) : ModuleDecl := { m with classes := m.classes.map ClassDecl.bare }

lemma map_intercalate {α β : Type} (f : α → β) (separator : List α) (blocks : List (List α)) :
    (separator.intercalate blocks).map f = (separator.map f).intercalate (blocks.map (·.map f)) := by
  have h := flatMap_intercalate (fun x => [f x]) separator blocks
  simpa only [← List.map_eq_flatMap] using h

lemma ClassDecl.parts_bare (c : ClassDecl) : c.bare.parts = c.parts.map Part.bare := by
  have hg : (c.groups.map (·.map MemberDecl.bare)).map (·.flatMap MemberDecl.parts) =
      (c.groups.map (·.flatMap MemberDecl.parts)).map (·.map Part.bare) := by
    rw [List.map_map, List.map_map]
    refine List.map_congr_left fun g _ => ?_
    rw [Function.comp_apply, Function.comp_apply, List.flatMap_map, List.map_flatMap]
    rfl
  rw [parts, parts, bare, hg, List.map_append, List.map_cons, List.map_cons, map_intercalate]
  rfl

lemma ModuleDecl.parts_bare (m : ModuleDecl) : m.bare.parts = m.parts.map Part.bare := by
  have hc : (m.classes.map ClassDecl.bare).map ClassDecl.parts =
      (m.classes.map ClassDecl.parts).map (·.map Part.bare) := by
    rw [List.map_map, List.map_map]
    exact List.map_congr_left fun c _ => c.parts_bare
  rw [parts, parts, bare, hc, List.map_append, List.map_cons, map_intercalate]
  rfl

lemma groupArguments_undocumented (as : List Argument) :
    groupArguments (as.map Argument.undocumented) = groupArguments as := by
  induction as with
  | nil => rfl
  | cons a as ih =>
    rw [List.map_cons, groupArguments, groupArguments, ih]
    rfl

lemma returnType_undocumented (rs : List ReturnValue) :
    returnType (rs.map ReturnValue.undocumented) = returnType rs := by
  have ht : (rs.map ReturnValue.undocumented).filterMap (·.type) = rs.filterMap (·.type) := by
    rw [List.filterMap_map]
    rfl
  rw [returnType, returnType, returnTypes, returnTypes, ht, List.isEmpty_map]

lemma Property.declaration_bare (p : Property) (owner : Owner) :
    (p.undocumented.declaration owner).bare = (p.declaration owner).bare := rfl

lemma Method.declaration_bare (m : Method) (owner : Owner) :
    (m.undocumented.declaration owner).bare = (m.declaration owner).bare := by
  simp only [MemberDecl.bare, declaration, undocumented, groupArguments_undocumented,
    returnType_undocumented]
  rfl

lemma ClassDoc.declaration_bare (c : ClassDoc) (key : String) (o : ModuleOptions) :
    (c.undocumented.declaration key o).bare = (c.declaration key o).bare := by
  have hg : c.undocumented.memberGroups.map (·.map MemberDecl.bare) =
      c.memberGroups.map (·.map MemberDecl.bare) := by
    simp only [memberGroups, undocumented, List.map_cons, List.map_nil, List.map_map,
      Function.comp_def, Property.declaration_bare, Method.declaration_bare]
  have hf : ∀ gs : List (List MemberDecl),
      (gs.filter (! ·.isEmpty)).map (·.map MemberDecl.bare) =
        (gs.map (·.map MemberDecl.bare)).filter (! ·.isEmpty) := by
    intro gs
    rw [List.filter_map]
    congr 2
    funext g
    rw [Function.comp_apply, List.isEmpty_map]
  simp only [ClassDecl.bare, declaration, hf, hg]
  rfl

lemma Metadata.declaration_bare (m : Metadata) (o : ModuleOptions) :
    (m.undocumented.declaration o).bare = (m.declaration o).bare := by
  simp only [ModuleDecl.bare, declaration, undocumented, Table.mapValues, List.map_map]
  congr 1
  refine List.map_congr_left fun e _ => ?_
  exact e.2.declaration_bare e.1 o

/-! ### Scanners and comments -/

section Block

variable {indent : Text} (hindent : IsBlankText indent) {P : Text → Prop} {d : DocComment}
  (hd : d.EscapedFrom P)

include hindent hd

/-- Of a written comment there is left its indentation, unless it begins in a comment, and the line
feed behind its end mark. -/
theorem withoutComments_block (inside : Bool) (t : Text) :
    withoutComments inside (unlines (d.render indent) ++ t) =
      (if inside then [] else indent) ++ '\n' :: withoutComments false t := by
  have hslash : '/' ∉ indent := fun h => absurd (hindent '/' h) (by decide)
  have hstar : '*' ∉ indent ++ ['/'] := by
    rw [List.mem_append, not_or]
    exact ⟨fun h => absurd (hindent '*' h) (by decide), by decide⟩
  have hend := hd.end_notInfix_body hindent
  have hsplit : unlines (d.render indent) ++ t =
      indent ++ '/' :: '*' :: (d.body indent ++ '*' :: '/' :: '\n' :: t) := by
    rw [d.unlines_render]
    simp
  have hfeed : withoutComments false ('\n' :: t) = '\n' :: withoutComments false t :=
    withoutComments_outside fun h => absurd (List.cons_prefix_cons.mp h).1 (by decide)
  rw [hsplit]
  cases inside with
  | false =>
    rw [withoutComments_append_of_notMem hslash, withoutComments, withoutComments_end hend, hfeed]
    rfl
  | true =>
    -- The asterisk of the opening mark has another one behind it, so it ends nothing.
    have hopen : ¬['*', '/'] <+: '*' :: (d.body indent ++ '*' :: '/' :: '\n' :: t) := fun h =>
      absurd (List.cons_prefix_cons.mp (List.cons_prefix_cons.mp h).2).1 (by decide)
    rw [List.append_cons, withoutComments_skip hstar, withoutComments_inside hopen,
      withoutComments_end hend, hfeed]
    rfl

end Block

section Parts

variable {P : Text → Prop} {ps : List Part}
  (hps : ∀ p ∈ ps, p.All (DocComment.EscapedFrom P) fun _ => True)

include hps

theorem withoutComments_parts (inside : Bool) :
    withoutComments inside (unlines (ps.flatMap Part.lines)) =
      withoutComments inside (unlines ((ps.map Part.bare).flatMap Part.lines)) := by
  induction ps generalizing inside with
  | nil => rfl
  | cons p ps ih =>
    rw [List.forall_mem_cons] at hps
    rw [List.map_cons, List.flatMap_cons, List.flatMap_cons, unlines_append, unlines_append]
    cases p with
    | comment depth doc =>
      rw [Part.lines, Part.bare, Part.lines,
        withoutComments_block (Part.isBlankText_indent depth) hps.1,
        withoutComments_block (P := P) (Part.isBlankText_indent depth)
          DocComment.escapedFrom_empty, ih hps.2]
    | line depth text =>
      simp only [Part.lines, Part.bare, unlines_cons, unlines_nil, List.append_assoc,
        List.cons_append, List.nil_append]
      exact withoutComments_line_congr (ih hps.2) inside text
    | blank =>
      exact withoutComments_line_congr (ih hps.2) inside []

theorem run_parts (s : Layout.Cursor) :
    s.run ((ps.flatMap Part.lines).flatMap Text.lines) =
      s.run (((ps.map Part.bare).flatMap Part.lines).flatMap Text.lines) := by
  induction ps generalizing s with
  | nil => rfl
  | cons p ps ih =>
    rw [List.forall_mem_cons] at hps
    rw [List.map_cons, List.flatMap_cons, List.flatMap_cons, List.flatMap_append,
      List.flatMap_append, Layout.Cursor.run_append, Layout.Cursor.run_append,
      funext fun s => ih hps.2 s]
    cases p with
    | comment depth doc =>
      have hi := Part.isBlankText_indent depth
      have hn := Part.newline_notMem_indent depth
      rw [Part.lines, Part.bare, Part.lines, Layout.Cursor.run_block hi hn hps.1,
        Layout.Cursor.run_block (P := P) hi hn DocComment.escapedFrom_empty]
    | line depth text => rfl
    | blank => rfl

end Parts

lemma Metadata.forall_mem_parts_escapedFrom (m : Metadata) (o : ModuleOptions) :
    ∀ p ∈ (m.declaration o).parts,
      p.All (DocComment.EscapedFrom fun _ => True) fun _ => True :=
  Metadata.forall_mem_parts (fun _ _ => trivial) (fun _ _ _ _ => trivial) trivial
    (fun _ _ => trivial) (fun _ _ _ _ _ _ => trivial) trivial

lemma Metadata.withoutComments_text (m : Metadata) (o : ModuleOptions) :
    withoutComments false (m.declaration o).text =
      withoutComments false (m.undocumented.declaration o).bare.text := by
  rw [declaration_bare, ModuleDecl.text_eq_parts, ModuleDecl.text_eq_parts, ModuleDecl.parts_bare]
  exact withoutComments_parts (m.forall_mem_parts_escapedFrom o) false

lemma Metadata.run_text (m : Metadata) (o : ModuleOptions) :
    Layout.Cursor.start.run (m.declaration o).text.lines =
      Layout.Cursor.start.run (m.undocumented.declaration o).bare.text.lines := by
  rw [declaration_bare, ModuleDecl.lines_text, ModuleDecl.lines_text, ModuleDecl.parts_bare,
    Layout.Cursor.run_append, Layout.Cursor.run_append, run_parts (m.forall_mem_parts_escapedFrom o)]

/-- Metadata that differ in descriptions and file names alone have raw documents that are equal but
for their comments, and that are laid out or fail alike. -/
theorem documentation_declares_nothing (m₁ m₂ : Metadata) (o : ModuleOptions)
    (h : m₁.undocumented = m₂.undocumented) :
    withoutComments false (m₁.declaration o).text = withoutComments false (m₂.declaration o).text ∧
      Layout.SameVerdict (m₁.declaration o).text (m₂.declaration o).text := by
  refine ⟨by rw [m₁.withoutComments_text, m₂.withoutComments_text, h],
    Layout.sameVerdict_of_run ?_⟩
  rw [m₁.run_text, m₂.run_text, h]

/-- A class with a text in all places for documentation, and a method whose name opens a comment and
closes a block. -/
def hostileMetadata (d : Option String) : Metadata where
  classes := {
    entries := [("A", {
      description := d
      filename := d
      instanceProperties := [{ name := "p", description := d }]
      instanceMethods := [{
        name := "/*\n\x7d"
        description := d
        arguments := [{ name := "a", description := d }]
        returnValues := [{ description := d }] }] })] }

/-- The text `*/ {`, then a line that opens a comment, makes no difference. -/
theorem documentation_declares_nothing_hostile :
    let m₁ := hostileMetadata none
    let m₂ := hostileMetadata (some "*/ \x7b\n/*")
    m₁.undocumented = m₂.undocumented ∧
      withoutComments false (m₁.declaration {}).text =
        withoutComments false (m₂.declaration {}).text ∧
      Layout.SameVerdict (m₁.declaration {}).text (m₂.declaration {}).text :=
  ⟨rfl, documentation_declares_nothing (hostileMetadata none)
    (hostileMetadata (some "*/ \x7b\n/*")) {} rfl⟩

end AmbientDecls
