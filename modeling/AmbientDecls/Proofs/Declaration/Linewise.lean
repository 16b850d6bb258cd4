import AmbientDecls.Proofs.Declaration.Signatures
import AmbientDecls.Proofs.Layout.Linewise

/-!
# Declared metadata are laid out line for line

Metadata whose names and type tokens stand on one line have a raw document that is laid out, and
line for line: no documentation text and no type, with whatever braces, moves the depth of a line or
costs an empty line. Every part of the document is a block that leaves the cursor of the layout
where it found it (`Part.IsBlock`), and so are the groups and the classes that are made of blocks.
-/

namespace AmbientDecls

open Text Layout

def Part.marked : Part → List (Mark × Text)
  | comment depth doc => doc.marked depth (indent depth)
  | line depth text => [(⟨depth, false⟩, text)]
  | blank => [(⟨0, false⟩, [])]

/-- The lines of a raw document with their marks: the header of the module and its last line stand
in no block, the comment, the header and the last line of a class in one, and the comment and the
signature of a member in two. -/
def ModuleDecl.marked (m : ModuleDecl) : List (Mark × Text) := m.parts.flatMap Part.marked

/-- What keeps every declaration on one line, file names included, and what keeps the line of an
instance member from closing a block or opening a comment. -/
structure Metadata.LineSafe (m : Metadata) (o : ModuleOptions) : Prop where
  oneLine : m.OneLine o
  filenames : ∀ e ∈ m.classes.entries, ∀ f ∈ e.2.filename, '\n' ∉ f.toList
  names : ∀ e ∈ m.classes.entries, ∀ n ∈ e.2.instanceNames,
    ¬['\x7d'] <+: trimStart n.toList ∧ ¬['/', '*'] <+: trimStart n.toList

lemma Part.map_snd_marked {ps : List Part}
    (hps : ∀ p ∈ ps, p.All (DocComment.EscapedFrom ('\n' ∉ ·)) IsRecord) :
    (ps.flatMap Part.marked).map Prod.snd =
      ((ps.flatMap Part.lines).flatMap Text.lines).map dropReturn := by
  induction ps with
  | nil => rfl
  | cons p ps ih =>
    rw [List.forall_mem_cons] at hps
    rw [List.flatMap_cons, List.map_append, ih hps.2, List.flatMap_cons, List.flatMap_append,
      List.map_append]
    refine congrArg (· ++ _) ?_
    cases p with
    | comment depth doc =>
      exact DocComment.EscapedFrom.map_snd_marked hps.1 (Part.newline_notMem_indent depth) depth
    | line depth text =>
      have hrecord : IsRecord text := hps.1
      rw [Part.lines, List.flatMap_singleton, hrecord.map_dropReturn_lines]
      rfl
    | blank => rfl

section Blocks

variable {unit : Text}

lemma IsHeader.passes {t : Text} (h : IsHeader t) {s : Cursor} (hs : s.inComment = false) :
    Cursor.Passes unit s [(⟨s.depth, false⟩, t)] ⟨s.depth + 1, false, false, false⟩ := by
  have hlast := h.last
  have ht := h.trim_eq
  have hmark : ∀ u, ¬('/' :: u).isPrefixOf t = true := by
    intro u hu
    obtain ⟨rest, rfl⟩ := List.isPrefixOf_iff_prefix.mp hu
    exact h.head_ne (c := '/') (by decide) (by decide) rfl
  have hblock : ¬"/*".toList.isPrefixOf t = true := hmark ['*']
  have hline : ¬"//".toList.isPrefixOf t = true := hmark ['/']
  have hr : roleOf s.inComment t = (.code, false) := by
    rw [hs, roleOf, if_neg Bool.false_ne_true, if_neg hblock, if_neg hline]
  have hclose : (s.line t).closes = false := by
    have hbrace : t.head? ≠ some '\x7d' := h.head_ne (by decide) (by decide)
    rw [Line.closes, Cursor.line, beq_false_of_ne hbrace, Bool.and_false]
  have hopen : (s.line t).opens = true := by
    rw [Line.opens, Cursor.line, hr, hlast]
    rfl
  have hne : t.trim ≠ [] := by
    intro hnil
    rw [← ht, hnil] at hlast
    cases hlast
  have hp : Cursor.Passes unit s [(⟨s.depth, false⟩, t)] (s.next t.trim) :=
    Cursor.passes_of_closes hne (by rwa [ht]) (by rw [hs]; rfl)
  have hn : s.next t = ⟨s.depth + 1, false, false, false⟩ := by
    rw [Cursor.next, Cursor.here, hclose, hopen, hr, hlast]
    rfl
  rwa [ht, hn] at hp

/-- A signature is a line among others, whether it is code or begins like a line comment. -/
lemma IsSignature.passes {name t : Text} (h : IsSignature name t)
    (hbrace : ¬['\x7d'] <+: name.trimStart) (hmark : ¬['/', '*'] <+: name.trimStart) {s : Cursor}
    (hs : s.inComment = false) :
    Cursor.Passes unit s [(⟨s.depth, false⟩, '\t' :: t)] ⟨s.depth, false, false, true⟩ := by
  have hlast := h.getLast?_trim_tab
  have hne : Text.trim ('\t' :: t) ≠ [] := by
    intro hnil
    rw [hnil] at hlast
    cases hlast
  have hclose : (s.line (Text.trim ('\t' :: t))).closes = false := by
    have hhead : (Text.trim ('\t' :: t)).head? ≠ some '\x7d' := by
      intro hh
      obtain ⟨rest, hrest⟩ := List.head?_eq_some_iff.mp hh
      refine hbrace (h.prefix_of_prefix_trim_tab ?_ (by decide) (by decide))
      rw [hrest]
      exact List.prefix_append ['\x7d'] rest
    rw [Line.closes, Cursor.line, beq_false_of_ne hhead, Bool.and_false]
  have hopen : (s.line (Text.trim ('\t' :: t))).opens = false := by
    rw [Line.opens, Cursor.line, hlast]
    exact Bool.and_false _
  have hr : (roleOf s.inComment (Text.trim ('\t' :: t))).2 = false := by
    have hm : ¬"/*".toList.isPrefixOf (Text.trim ('\t' :: t)) = true := by
      rw [List.isPrefixOf_iff_prefix]
      exact fun hp => hmark (h.prefix_of_prefix_trim_tab hp (by decide) (by decide))
    rw [hs, roleOf, if_neg Bool.false_ne_true, if_neg hm]
    split <;> rfl
  have hp : Cursor.Passes unit s [(⟨s.depth, false⟩, '\t' :: t)]
      (s.next (Text.trim ('\t' :: t))) :=
    Cursor.passes_of_closes hne hclose (by rw [hs]; rfl)
  have hn : s.next (Text.trim ('\t' :: t)) = ⟨s.depth, false, false, true⟩ := by
    rw [Cursor.next, Cursor.here, hclose, hopen, hr, hlast]
    rfl
  rwa [hn] at hp

lemma passes_closing (depth : Nat) (room : Bool) :
    Cursor.Passes unit ⟨depth + 1, false, false, room⟩ [(⟨depth, false⟩, ['\x7d'])]
      ⟨depth, false, false, true⟩ :=
  Cursor.passes_line (by decide) (by simp) (fun _ => rfl) rfl rfl

variable (unit)

/-- Parts that are laid out line for line wherever they stand in so many blocks, and that leave the
cursor in as many. -/
def Part.IsBlock (depth : Nat) (ps : List Part) : Prop := ∀ s : Cursor, s.depth = depth →
  s.inComment = false → Cursor.Passes unit s (ps.flatMap Part.marked) ⟨depth, false, false, true⟩

variable {unit} {depth : Nat}

lemma Part.IsBlock.append {p q : List Part} (hp : IsBlock unit depth p)
    (hq : IsBlock unit depth q) : IsBlock unit depth (p ++ q) := by
  intro s hd hs
  rw [List.flatMap_append]
  exact (hp s hd hs).append (hq _ rfl rfl)

lemma Part.IsBlock.flatMap {α : Type} {f : α → List Part} {xs : List α} (hne : xs ≠ [])
    (h : ∀ x ∈ xs, IsBlock unit depth (f x)) : IsBlock unit depth (xs.flatMap f) := by
  induction xs with
  | nil => exact absurd rfl hne
  | cons x xs ih =>
    rw [List.forall_mem_cons] at h
    rw [List.flatMap_cons]
    cases xs with
    | nil =>
      rw [List.flatMap_nil, List.append_nil]
      exact h.1
    | cons y ys => exact h.1.append (ih (List.cons_ne_nil y ys) h.2)

/-- Blocks with an empty line between each two are a block. -/
theorem Part.IsBlock.intercalate {blocks : List (List Part)} (hne : blocks ≠ [])
    (h : ∀ b ∈ blocks, IsBlock unit depth b) :
    IsBlock unit depth ([Part.blank].intercalate blocks) := by
  induction blocks with
  | nil => exact absurd rfl hne
  | cons b bs ih =>
    rw [List.forall_mem_cons] at h
    cases bs with
    | nil =>
      rw [List.intercalate_singleton]
      exact h.1
    | cons c cs =>
      intro s hd hs
      have hblank : Cursor.Passes unit ⟨depth, false, false, true⟩ ([Part.blank].flatMap Part.marked)
          ⟨depth, false, true, true⟩ := Cursor.passes_blank ⟨0, false⟩ rfl rfl
      rw [List.intercalate_cons_cons, List.flatMap_append, List.flatMap_append]
      exact ((h.1 s hd hs).append hblank).append (ih (List.cons_ne_nil c cs) h.2 _ rfl rfl)

lemma Part.passes_intercalate {blocks : List (List Part)} (h : ∀ b ∈ blocks, IsBlock unit depth b) :
    ∃ room, Cursor.Passes unit ⟨depth, false, false, false⟩
      (([Part.blank].intercalate blocks).flatMap Part.marked) ⟨depth, false, false, room⟩ := by
  by_cases hne : blocks = []
  · subst hne
    exact ⟨false, Cursor.Passes.nil⟩
  · exact ⟨true, IsBlock.intercalate hne h _ rfl rfl⟩

/-! ### Declarations as blocks -/

lemma Part.isBlock_comment {doc : DocComment} (h : doc.EscapedFrom ('\n' ∉ ·)) (depth : Nat) :
    IsBlock unit depth [comment depth doc] := by
  rintro s rfl hs
  rw [List.flatMap_singleton]
  exact Cursor.passes_block (isBlankText_indent s.depth) h hs

lemma MemberDecl.isBlock {m : MemberDecl} {name : Text} (hc : m.comment.EscapedFrom ('\n' ∉ ·))
    (h : IsSignature name m.signature) (hbrace : ¬['\x7d'] <+: name.trimStart)
    (hmark : ¬['/', '*'] <+: name.trimStart) : Part.IsBlock unit 2 m.parts := by
  refine (Part.isBlock_comment hc 2).append (q := [.line 2 ('\t' :: m.signature)]) ?_
  rintro s hd hs
  rw [← hd]
  exact h.passes hbrace hmark hs

lemma ClassDecl.isBlock {c : ClassDecl} (hc : c.comment.EscapedFrom ('\n' ∉ ·))
    (hh : IsHeader c.header) (hne : ∀ g ∈ c.groups, g ≠ [])
    (hm : ∀ g ∈ c.groups, ∀ m ∈ g, Part.IsBlock unit 2 m.parts) :
    Part.IsBlock unit 1 c.parts := by
  refine (Part.isBlock_comment hc 1).append (q := .line 1 c.header ::
    [Part.blank].intercalate (c.groups.map (·.flatMap MemberDecl.parts)) ++ [.line 1 ['\x7d']]) ?_
  rintro s hd hs
  have hblocks : ∀ b ∈ c.groups.map (·.flatMap MemberDecl.parts), Part.IsBlock unit 2 b :=
    List.forall_mem_map.mpr fun g hg => Part.IsBlock.flatMap (hne g hg) (hm g hg)
  obtain ⟨room, hgroups⟩ := Part.passes_intercalate hblocks
  have hheader : Cursor.Passes unit s [(⟨s.depth, false⟩, c.header)]
      ⟨s.depth + 1, false, false, false⟩ := hh.passes hs
  rw [hd] at hheader
  rw [List.flatMap_append, List.flatMap_cons]
  exact (hheader.append hgroups).append (passes_closing 1 room)

lemma ModuleDecl.passes {m : ModuleDecl} (hh : IsHeader m.header)
    (hc : ∀ c ∈ m.classes, Part.IsBlock unit 1 c.parts) :
    Cursor.Passes unit .start m.marked ⟨0, false, false, true⟩ := by
  have hblocks : ∀ b ∈ m.classes.map ClassDecl.parts, Part.IsBlock unit 1 b :=
    List.forall_mem_map.mpr hc
  obtain ⟨room, hclasses⟩ := Part.passes_intercalate hblocks
  have hheader : Cursor.Passes unit .start [(⟨0, false⟩, m.header)] ⟨1, false, false, false⟩ :=
    hh.passes rfl
  rw [marked, parts, List.flatMap_append, List.flatMap_cons]
  exact (hheader.append hclasses).append (passes_closing 0 room)

end Blocks

namespace Metadata.LineSafe

variable {m : Metadata} {o : ModuleOptions} (h : m.LineSafe o)

include h

lemma forall_mem_groups {e : String × ClassDoc} (he : e ∈ m.classes.entries) :
    ∀ g ∈ (e.2.declaration e.1 o).groups, ∀ d ∈ g, ∃ name,
      (¬['\x7d'] <+: trimStart name ∧ ¬['/', '*'] <+: trimStart name) ∧
        IsSignature name d.signature :=
  (h.oneLine.classes e he).forall_mem_groups
    (N := fun n => ¬['\x7d'] <+: trimStart n ∧ ¬['/', '*'] <+: trimStart n) o
    (fun name => ⟨not_prefix_trimStart_static name (by decide) _,
      not_prefix_trimStart_static name (by decide) _⟩) (h.names e he)

lemma newline_notMem_file {e : String × ClassDoc} (he : e ∈ m.classes.entries) :
    ∀ f ∈ e.2.filename, '\n' ∉ "file: ".toList ++ f.toList := by
  intro f hf
  rw [List.mem_append, not_or]
  exact ⟨by decide, h.filenames e he f hf⟩

lemma map_snd_marked :
    (m.declaration o).marked.map Prod.snd =
      (((m.declaration o).parts.flatMap Part.lines).flatMap Text.lines).map dropReturn := by
  apply Part.map_snd_marked
  apply Metadata.forall_mem_parts
  · exact fun _ ht => ht
  · exact fun e he => h.newline_notMem_file he
  · exact (ModuleDecl.isHeader h.oneLine.moduleName).isRecord
  · intro e he
    exact ((h.oneLine.classes e he).isHeader o).isRecord
  · intro e he g hg d hd
    obtain ⟨name, -, hsig⟩ := h.forall_mem_groups he g hg d hd
    exact hsig.isRecord_tab
  · exact isRecord_closing

lemma passes (unit : Text) :
    Cursor.Passes unit .start (m.declaration o).marked ⟨0, false, false, true⟩ := by
  apply ModuleDecl.passes (ModuleDecl.isHeader h.oneLine.moduleName)
  intro c hc
  obtain ⟨e, he, rfl⟩ := List.mem_map.mp hc
  have hcomment : e.2.comment.EscapedFrom ('\n' ∉ ·) :=
    e.2.escapedFrom_comment (fun _ ht => ht) (h.newline_notMem_file he)
  apply ClassDecl.isBlock hcomment ((h.oneLine.classes e he).isHeader o)
  · intro g hg
    simpa using (List.mem_filter.mp hg).2
  · intro g hg d hd
    obtain ⟨name, ⟨hbrace, hmark⟩, hsig⟩ := h.forall_mem_groups he g hg d hd
    exact MemberDecl.isBlock (e.2.escapedFrom_comment_of_mem (fun _ ht => ht) e.1 o g hg d hd)
      hsig hbrace hmark

end Metadata.LineSafe

/-- The raw document of line-safe metadata is always laid out, and line for line: every line is
trimmed and indented by the blocks it is declared in, the lines that continue a comment by one space
more, and every empty line is kept. -/
theorem layout_line_for_line (m : Metadata) (o : ModuleOptions) (h : m.LineSafe o)
    (format : Layout.Options) :
    ∃ out, layout format (m.declaration o).text = .ok out ∧
      out.records.length = (m.declaration o).text.records.length ∧
      (m.declaration o).text.records = (m.declaration o).marked.map Prod.snd ∧
      out.records = (m.declaration o).marked.map fun l => l.1.laidOut format.unit l.2 := by
  have hrecords : (m.declaration o).text.records = (m.declaration o).marked.map Prod.snd := by
    rw [ModuleDecl.records_text, h.map_snd_marked]
  have hne : (m.declaration o).marked ≠ [] := List.cons_ne_nil _ _
  obtain ⟨out, hout, hlines⟩ :=
    Layout.layout_of_passes h.map_snd_marked hne (h.passes format.unit) rfl rfl
  rw [← ModuleDecl.text_eq_parts] at hout
  refine ⟨out, hout, ?_, hrecords, hlines⟩
  rw [hlines, hrecords, List.length_map, List.length_map]

/-- Comments, braces and marks in every place where they are allowed. -/
theorem layout_line_for_line_sample :
    sampleMetadata.LineSafe {} ∧
      ∃ out, layout { indentSize := 2 } (sampleMetadata.declaration {}).text = .ok out ∧
        out.records.length = (sampleMetadata.declaration {}).text.records.length ∧
        (sampleMetadata.declaration {}).text.records =
          (sampleMetadata.declaration {}).marked.map Prod.snd ∧
        out.records =
          ["declare module AtomTypes \x7b", "  /**", "   * a *\\/ \x7b", "   * /**", "   * \x7d", "   *",
            "   * file: a*\\/b", "   */", "  class A \x7b", "    /**", "     * /*", "     */",
            "    static */: number;", "", "    /**", "     * @param \x7bFunction\x7d *\\/",
            "     * @param \x7b/*\x7d", "     */", "    constructor(f: (x: /*) => void);", "    /**",
            "     * @returns \x7b\x7d \x7b\x7d", "     */", "    go(): \x7d \x7b;", "  \x7d", "", "  /**",
            "   */", "  class B extends A \x7b", "  \x7d", "\x7d"].map String.toList := by
  have h : sampleMetadata.LineSafe {} := ⟨oneLine_sampleMetadata, by decide, by decide⟩
  exact ⟨h, layout_line_for_line sampleMetadata {} h { indentSize := 2 }⟩

end AmbientDecls
