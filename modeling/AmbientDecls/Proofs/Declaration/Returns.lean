import AmbientDecls.Proofs.Declaration.Signatures
import AmbientDecls.Proofs.Layout.Written
import AmbientDecls.Proofs.Text.Endings
import AmbientDecls.Proofs.Text.Optional

/-!
# Carriage returns of documentation text

Where every name and every type token stands on one line, only documentation text brings a carriage
return before a line feed into a raw document. A description loses one carriage return at the end of
each of its lines and brings in what is left of two, a file name loses none
(`Metadata.KeepsReturn`). One such place is enough for the whole document to be laid out with
carriage returns, unless they are replaced.
-/

namespace AmbientDecls

open Text

lemma exists_mem_flatMap {α β : Type} {P : β → Prop} (f : α → List β) (xs : List α) :
    (∃ y ∈ xs.flatMap f, P y) ↔ ∃ x ∈ xs, ∃ y ∈ f x, P y := by
  simp only [List.mem_flatMap]
  tauto

lemma exists_mem_filterMap {α β : Type} {P : β → Prop} (f : α → Option β) (xs : List α) :
    (∃ y ∈ xs.filterMap f, P y) ↔ ∃ x ∈ xs, ∃ y ∈ f x, P y := by
  simp only [List.mem_filterMap, Option.mem_def]
  tauto

lemma exists_mem_append {α : Type} {P : α → Prop} (xs ys : List α) :
    (∃ x ∈ xs ++ ys, P x) ↔ (∃ x ∈ xs, P x) ∨ ∃ y ∈ ys, P y := by
  simp only [List.mem_append, or_and_right, exists_or]

lemma exists_mem_intercalate {α : Type} {P : α → Prop} {separator : List α}
    (hs : ∀ x ∈ separator, ¬P x) (blocks : List (List α)) :
    (∃ x ∈ separator.intercalate blocks, P x) ↔ ∃ b ∈ blocks, ∃ x ∈ b, P x := by
  have hnone : ¬∃ x ∈ separator, P x := fun ⟨x, hx, hP⟩ => hs x hx hP
  induction blocks with
  | nil => simp
  | cons b bs ih =>
    cases bs with
    | nil => simp
    | cons c cs =>
      rw [List.exists_mem_cons_iff, List.intercalate_cons_cons, exists_mem_append,
        exists_mem_append, or_iff_left hnone]
      exact or_congr_right ih

namespace DocComment

lemma endsLine_return_escape (t : Text) : EndsLine ['\r'] (escape t) ↔ EndsLine ['\r'] t := by
  have hfeed : ∀ s : Text, ['\n'] <+: s ++ ['\n'] ↔ s.head?.getD '\n' = '\n' := by
    intro s
    cases s <;> simp [List.cons_prefix_cons, eq_comm]
  rw [endsLine_return_iff, endsLine_return_iff]
  fun_induction escape t with
  | case1 rest ih =>
    simp only [List.cons_append, List.infix_cons_iff, List.cons_prefix_cons, ih]
    simp
  | case2 c rest hc ih =>
    -- Escaping keeps the first character, so what stands behind the character is the same.
    simp only [List.cons_append, List.infix_cons_iff, List.cons_prefix_cons, ih, hfeed,
      head?_escape]
  | case3 => rfl

/-- Some line of the comment is written with a carriage return before its line feed. -/
def KeepsReturn (d : DocComment) : Prop := ∃ l ∈ d.lines, EndsLine ['\r'] l

lemma not_keepsReturn_empty : ¬KeepsReturn {} := by
  simp [KeepsReturn]

variable (d : DocComment)

lemma keepsReturn_blank : d.blank.KeepsReturn ↔ d.KeepsReturn := by
  have hnil : ¬EndsLine ['\r'] [] := by decide
  simp only [KeepsReturn, blank, exists_mem_append, List.mem_singleton, exists_eq_left, hnil,
    or_false]

lemma keepsReturn_line (l : Text) :
    (d.line l).KeepsReturn ↔ d.KeepsReturn ∨ EndsLine ['\r'] l := by
  simp only [KeepsReturn, line, exists_mem_append, List.mem_singleton, exists_eq_left,
    endsLine_return_escape]

lemma keepsReturn_text (t : Text) :
    (d.text t).KeepsReturn ↔ d.KeepsReturn ∨ EndsLine ['\r', '\r'] t := by
  have hline : ∀ l ∈ t.lines, EndsLine ['\r'] (escape l.dropReturn) ↔ ['\r', '\r'] <:+ l := by
    intro l hl
    rw [endsLine_return_escape, endsLine_return_dropReturn (newline_notMem_of_mem_lines hl)]
  have hnew : (∃ l ∈ t.lines.map (fun l => escape l.dropReturn), EndsLine ['\r'] l) ↔
      EndsLine ['\r', '\r'] t := by
    simp only [List.mem_map, exists_exists_and_eq_and]
    exact exists_congr fun l => and_congr_right (hline l)
  rw [← hnew]
  simp only [KeepsReturn, text, exists_mem_append]

lemma keepsReturn_text? (t : Option String) :
    (d.text? t).KeepsReturn ↔ d.KeepsReturn ∨ ∃ s ∈ t, EndsLine ['\r', '\r'] s.toList := by
  have hnil : ¬EndsLine ['\r', '\r'] [] := by decide
  cases t using optionalText_cases with
  | absent => simp [text?]
  | empty => simp [text?, hnil]
  | given s hs => simp [text?, keepsReturn_text]

lemma keepsReturn_foldl_text {α : Type} (f : α → Text) (xs : List α) :
    (xs.foldl (fun d x => d.text (f x)) d).KeepsReturn ↔
      d.KeepsReturn ∨ ∃ x ∈ xs, EndsLine ['\r', '\r'] (f x) := by
  induction xs generalizing d with
  | nil => simp
  | cons x xs ih =>
    rw [List.foldl_cons, ih, keepsReturn_text, List.exists_mem_cons_iff, or_assoc]

lemma endsLine_return_renderLine {indent : Text} (hn : '\n' ∉ indent) (l : Text) :
    EndsLine ['\r'] (renderLine indent l) ↔ EndsLine ['\r'] l := by
  rw [renderLine]
  split
  · next h =>
    have hl : l = [] := List.isEmpty_iff.mp h
    have hrecord : IsRecord (indent ++ " *".toList) := ⟨by simp [hn], by simp⟩
    rw [hl]
    exact iff_of_false hrecord.not_endsLine_return (by decide)
  · have hsplit : indent ++ " * ".toList ++ l = (indent ++ " *".toList) ++ ' ' :: l := by simp
    rw [hsplit]
    exact endsLine_append_cons (by simp [hn]) (by decide) (by decide) l

lemma exists_mem_render {indent : Text} (hn : '\n' ∉ indent) :
    (∃ l ∈ d.render indent, EndsLine ['\r'] l) ↔ d.KeepsReturn := by
  have hopen : IsRecord (indent ++ "/**".toList) := ⟨by simp [hn], by simp⟩
  have hclose : IsRecord (indent ++ " */".toList) := ⟨by simp [hn], by simp⟩
  have hinner : (∃ l ∈ d.lines.map (renderLine indent), EndsLine ['\r'] l) ↔ d.KeepsReturn := by
    simp only [List.mem_map, exists_exists_and_eq_and]
    exact exists_congr fun l => and_congr_right fun _ => endsLine_return_renderLine hn l
  rw [render, ← hinner]
  simp only [exists_mem_append, List.exists_mem_cons_iff, hopen.not_endsLine_return,
    List.mem_singleton, exists_eq_left, hclose.not_endsLine_return, false_or, or_false]

end DocComment

/-! ### The comments of a document -/

/-- The part is a comment with the property. -/
def Part.IsCommentWith (C : DocComment → Prop) : Part → Prop
  | comment _ doc => C doc
  | line _ _ => False
  | blank => False

section Comments

variable {C : DocComment → Prop}

lemma MemberDecl.exists_mem_parts (m : MemberDecl) :
    (∃ p ∈ m.parts, p.IsCommentWith C) ↔ C m.comment := by
  simp [parts, Part.IsCommentWith]

lemma ClassDecl.exists_mem_parts (c : ClassDecl) :
    (∃ p ∈ c.parts, p.IsCommentWith C) ↔ C c.comment ∨ ∃ g ∈ c.groups, ∃ m ∈ g, C m.comment := by
  have hblank : ∀ p ∈ [Part.blank], ¬p.IsCommentWith C :=
    List.forall_mem_singleton.mpr id
  have hgroup : ∀ g : List MemberDecl,
      (∃ p ∈ g.flatMap MemberDecl.parts, p.IsCommentWith C) ↔ ∃ m ∈ g, C m.comment := by
    intro g
    simp only [exists_mem_flatMap, MemberDecl.exists_mem_parts]
  have hgroups := exists_mem_intercalate hblank (c.groups.map (·.flatMap MemberDecl.parts))
  simp only [List.mem_map, exists_exists_and_eq_and, hgroup] at hgroups
  rw [← hgroups]
  simp only [parts, exists_mem_append, List.exists_mem_cons_iff, List.mem_singleton, exists_eq_left,
    Part.IsCommentWith, false_or, or_false]

lemma ModuleDecl.exists_mem_parts (m : ModuleDecl) :
    (∃ p ∈ m.parts, p.IsCommentWith C) ↔
      ∃ c ∈ m.classes, C c.comment ∨ ∃ g ∈ c.groups, ∃ d ∈ g, C d.comment := by
  have hblank : ∀ p ∈ [Part.blank], ¬p.IsCommentWith C :=
    List.forall_mem_singleton.mpr id
  have hclasses := exists_mem_intercalate hblank (m.classes.map ClassDecl.parts)
  simp only [List.mem_map, exists_exists_and_eq_and, ClassDecl.exists_mem_parts] at hclasses
  rw [← hclasses]
  simp only [parts, exists_mem_append, List.exists_mem_cons_iff, List.mem_singleton, exists_eq_left,
    Part.IsCommentWith, false_or, or_false]

/-- The groups that are written are those of the class, so no member is left out. -/
lemma ClassDoc.exists_mem_groups (c : ClassDoc) (key : String) (o : ModuleOptions) :
    (∃ g ∈ (c.declaration key o).groups, ∃ m ∈ g, C m.comment) ↔
      ∃ g ∈ c.memberGroups, ∃ m ∈ g, C m.comment := by
  refine exists_congr fun g => ?_
  rw [declaration, List.mem_filter, and_assoc]
  refine and_congr_right fun _ => and_iff_right_of_imp ?_
  rintro ⟨m, hm, -⟩
  simp [List.ne_nil_of_mem hm]

end Comments

lemma Part.exists_mem_lines {C : DocComment → Prop} {ps : List Part}
    (hps : ∀ p ∈ ps, p.All C IsRecord) :
    (∃ l ∈ ps.flatMap Part.lines, EndsLine ['\r'] l) ↔
      ∃ p ∈ ps, p.IsCommentWith DocComment.KeepsReturn := by
  have hpart : ∀ p ∈ ps, (∃ l ∈ p.lines, EndsLine ['\r'] l) ↔
      p.IsCommentWith DocComment.KeepsReturn := by
    intro p hp
    cases p with
    | comment depth doc => exact doc.exists_mem_render (Part.newline_notMem_indent depth)
    | line depth text =>
      have hrecord : IsRecord text := hps _ hp
      simp [lines, IsCommentWith, hrecord.not_endsLine_return]
    | blank =>
      have hnil : ¬EndsLine ['\r'] [] := by decide
      simp [lines, IsCommentWith, hnil]
  rw [exists_mem_flatMap]
  exact exists_congr fun p => and_congr_right (hpart p)

def Method.descriptions (m : Method) : List String :=
  m.description.toList ++ m.arguments.filterMap (·.description) ++
    m.returnValues.filterMap (·.description)

/-- The descriptions of a class and of its members. -/
def ClassDoc.descriptions (c : ClassDoc) : List String :=
  c.description.toList ++ (c.classProperties ++ c.instanceProperties).filterMap (·.description) ++
    (c.classMethods ++ c.instanceMethods).flatMap Method.descriptions

/-- A line of a file name ends in a carriage return, or a line of a description in two. -/
def Metadata.KeepsReturn (m : Metadata) : Prop :=
  ∃ e ∈ m.classes.entries, (∃ f ∈ e.2.filename, EndsLine ['\r'] f.toList) ∨
    ∃ d ∈ e.2.descriptions, EndsLine ['\r', '\r'] d.toList

instance (m : Metadata) : Decidable m.KeepsReturn :=
  inferInstanceAs (Decidable (∃ e ∈ m.classes.entries, _ ∨ _))

lemma isRecord_tagLine {tag : String} (htag : IsRecord tag.toList) {type : Option String}
    (htype : ∀ t ∈ type, '\n' ∉ t.toList) : IsRecord (tagLine tag type none).toList := by
  have hmap : ∀ t, type.getD "" = t → '\n' ∉ (mapType (some t) .other).toList := by
    rintro t rfl
    apply newline_notMem_mapType
    rintro t ht
    cases type with
    | none =>
      rw [← Option.some.inj ht]
      decide
    | some token =>
      rw [← Option.some.inj ht]
      exact htype token rfl
  unfold tagLine
  split
  · simpa using htag
  · next htoken =>
    constructor
    · simp [htag.newline, hmap _ rfl]
    · have hlast : ∀ t : Text, ('\x7b' :: (t ++ ['\x7d'])).getLast? ≠ some '\r' := by
        intro t
        rw [← List.cons_append, List.getLast?_concat]
        decide
      simp [hlast]

lemma toList_tagLine (tag : String) (type : Option String) {d : String} (hd : d ≠ "") :
    (tagLine tag type (some d)).toList = (tagLine tag type none).toList ++ ' ' :: d.toList := by
  simp [tagLine]

/-- The tag and the type are on one line, so an entry has the ends of its description. -/
lemma endsLine_returns_tagLine {tag : String} (htag : IsRecord tag.toList) {type : Option String}
    (htype : ∀ t ∈ type, '\n' ∉ t.toList) (description : Option String) :
    EndsLine ['\r', '\r'] (tagLine tag type description).toList ↔
      ∃ d ∈ description, EndsLine ['\r', '\r'] d.toList := by
  have hrecord := isRecord_tagLine htag htype
  have hnone : ¬EndsLine ['\r', '\r'] (tagLine tag type none).toList := fun h =>
    hrecord.not_endsLine_return (h.of_suffix (by decide))
  have hnil : ¬EndsLine ['\r', '\r'] [] := by decide
  cases description using optionalText_cases with
  | absent => simpa using hnone
  | empty =>
    have hempty : tagLine tag type (some "") = tagLine tag type none := rfl
    rw [hempty]
    simpa [hnil] using hnone
  | given d hd =>
    rw [toList_tagLine tag type hd,
      endsLine_append_cons hrecord.newline (by decide) (by decide)]
    simp

lemma Property.keepsReturn_comment (p : Property) (owner : Owner) :
    (p.declaration owner).comment.KeepsReturn ↔
      ∃ d ∈ p.description, EndsLine ['\r', '\r'] d.toList := by
  have h := DocComment.keepsReturn_text? {} p.description
  rwa [iff_false_intro DocComment.not_keepsReturn_empty, false_or] at h

lemma Method.keepsReturn_comment {m : Method} (h : m.OneLine) :
    m.comment.KeepsReturn ↔ ∃ d ∈ m.descriptions, EndsLine ['\r', '\r'] d.toList := by
  have hparam : ∀ a ∈ m.arguments,
      EndsLine ['\r', '\r'] (tagLine "@param" a.type a.description).toList ↔
        ∃ d ∈ a.description, EndsLine ['\r', '\r'] d.toList := fun a ha =>
    endsLine_returns_tagLine ⟨by decide, by decide⟩ (h.arguments a ha).2 a.description
  have hreturn : ∀ r ∈ m.returnValues,
      EndsLine ['\r', '\r'] (tagLine "@returns" r.type r.description).toList ↔
        ∃ d ∈ r.description, EndsLine ['\r', '\r'] d.toList := fun r hr =>
    endsLine_returns_tagLine ⟨by decide, by decide⟩ (h.returnValues r hr) r.description
  rw [comment, DocComment.keepsReturn_foldl_text, DocComment.keepsReturn_foldl_text,
    DocComment.keepsReturn_text?, exists_congr fun a => and_congr_right (hparam a),
    exists_congr fun r => and_congr_right (hreturn r)]
  simp only [descriptions, exists_mem_append, exists_mem_filterMap, Option.mem_toList,
    Option.mem_def, DocComment.not_keepsReturn_empty, false_or]

lemma ClassDoc.keepsReturn_comment (c : ClassDoc) :
    c.comment.KeepsReturn ↔ (∃ f ∈ c.filename, EndsLine ['\r'] f.toList) ∨
      ∃ d ∈ c.description, EndsLine ['\r', '\r'] d.toList := by
  have hfile : ∀ f : String, EndsLine ['\r'] ("file: ".toList ++ f.toList) ↔
      EndsLine ['\r'] f.toList := fun f =>
    endsLine_append_cons (s := "file:".toList) (c := ' ') (by decide) (by decide) (by decide) _
  have hnil : ¬EndsLine ['\r', '\r'] [] := by decide
  unfold comment
  extract_lets described
  have hd : described.KeepsReturn ↔ ∃ d ∈ c.description, EndsLine ['\r', '\r'] d.toList := by
    unfold described
    cases c.description using optionalText_cases with
    | absent => simpa using DocComment.not_keepsReturn_empty
    | empty => simpa [hnil] using DocComment.not_keepsReturn_empty
    | given d hd =>
      simp [DocComment.keepsReturn_blank, DocComment.keepsReturn_text,
        DocComment.not_keepsReturn_empty]
  cases c.filename with
  | none => simpa using hd
  | some f =>
    rw [DocComment.keepsReturn_line, hd, hfile, or_comm]
    simp

/-- The comments of a class and of its members keep a carriage return where their texts do. -/
lemma ClassDoc.keepsReturn_declaration {c : ClassDoc} {key : String} (h : c.OneLine key)
    (o : ModuleOptions) :
    (c.comment.KeepsReturn ∨
        ∃ g ∈ (c.declaration key o).groups, ∃ m ∈ g, m.comment.KeepsReturn) ↔
      (∃ f ∈ c.filename, EndsLine ['\r'] f.toList) ∨
        ∃ d ∈ c.descriptions, EndsLine ['\r', '\r'] d.toList := by
  have hmethod : ∀ owner, ∀ m ∈ c.classMethods ++ c.instanceMethods,
      (m.declaration owner).comment.KeepsReturn ↔
        ∃ d ∈ m.descriptions, EndsLine ['\r', '\r'] d.toList := fun owner m hm =>
    Method.keepsReturn_comment (h.methods m hm)
  have hmethods : ∀ owner, ∀ ms ⊆ c.classMethods ++ c.instanceMethods,
      (∃ m ∈ ms, (Method.declaration m owner).comment.KeepsReturn) ↔
        ∃ m ∈ ms, ∃ d ∈ m.descriptions, EndsLine ['\r', '\r'] d.toList := fun owner ms hms =>
    exists_congr fun m => and_congr_right fun hm => hmethod owner m (hms hm)
  rw [exists_mem_groups, keepsReturn_comment]
  simp only [memberGroups, List.exists_mem_cons_iff, List.not_mem_nil, false_and, exists_false,
    or_false, List.mem_map, exists_exists_and_eq_and, Property.keepsReturn_comment,
    hmethods _ _ (List.subset_append_left _ _), hmethods _ _ (List.subset_append_right _ _),
    descriptions, exists_mem_append, exists_mem_filterMap, exists_mem_flatMap, Option.mem_toList,
    Option.mem_def, or_assoc]

/-- The raw document has a carriage return before a line feed where documentation text keeps one. -/
theorem Metadata.return_infix_text_iff {m : Metadata} {o : ModuleOptions} (h : m.OneLine o) :
    ['\r', '\n'] <:+: (m.declaration o).text ↔ m.KeepsReturn := by
  have hparts : ∀ p ∈ (m.declaration o).parts,
      p.All (DocComment.EscapedFrom fun _ => True) IsRecord := by
    apply Metadata.forall_mem_parts
    · exact fun _ _ => trivial
    · exact fun _ _ _ _ => trivial
    · exact (ModuleDecl.isHeader h.moduleName).isRecord
    · intro e he
      exact ((h.classes e he).isHeader o).isRecord
    · intro e he g hg d hd
      obtain ⟨name, -, hsig⟩ := (h.classes e he).forall_mem_groups (N := fun _ => True) o
        (fun _ => trivial) (fun _ _ => trivial) g hg d hd
      exact hsig.isRecord_tab
    · exact isRecord_closing
  have hclasses : ∀ e ∈ m.classes.entries,
      ((e.2.declaration e.1 o).comment.KeepsReturn ∨
        ∃ g ∈ (e.2.declaration e.1 o).groups, ∃ d ∈ g, d.comment.KeepsReturn) ↔
      (∃ f ∈ e.2.filename, EndsLine ['\r'] f.toList) ∨
        ∃ d ∈ e.2.descriptions, EndsLine ['\r', '\r'] d.toList := fun e he =>
    ClassDoc.keepsReturn_declaration (h.classes e he) o
  rw [ModuleDecl.text_eq_parts, return_infix_unlines_iff, Part.exists_mem_lines hparts,
    ModuleDecl.exists_mem_parts]
  simp only [declaration, List.mem_map, exists_exists_and_eq_and]
  exact exists_congr fun e => and_congr_right (hclasses e)

/-- A laid out document has a carriage return before a line feed where documentation text keeps one
and they are not replaced, and only there. -/
theorem returns_kept_from_documentation (m : Metadata) (o : ModuleOptions) (h : m.OneLine o)
    (format : Layout.Options) (out : Text) (hout : layout format (m.declaration o).text = .ok out) :
    ['\r', '\n'] <:+: out ↔ format.replaceLineEndings = false ∧ m.KeepsReturn := by
  rw [Layout.return_infix_layout_iff hout, Metadata.return_infix_text_iff h]

/-- A class in a file, with a description. -/
def documentedClass (filename description : String) : Metadata where
  classes := {
    entries := [("A", { filename := some filename, description := some description })] }

/-- The terminators of a description are not those of the document. -/
theorem returns_kept_from_documentation_none :
    let m := documentedClass "a.js" "a\r\nb\r\n"
    let out := unlines (["declare module AtomTypes \x7b", "    /**", "     * a", "     * b", "     *",
      "     *", "     * file: a.js", "     */", "    class A \x7b", "    \x7d", "\x7d"].map String.toList)
    m.OneLine {} ∧ layout {} (m.declaration {}).text = .ok out ∧ ¬m.KeepsReturn ∧
      (['\r', '\n'] <:+: out ↔ ({} : Layout.Options).replaceLineEndings = false ∧ m.KeepsReturn) := by
  have hline : (documentedClass "a.js" "a\r\nb\r\n").OneLine {} := by
    refine ⟨by decide, List.forall_mem_singleton.mpr ⟨by decide, by decide, by decide, ?_⟩⟩
    exact fun _ h => absurd h List.not_mem_nil
  refine ⟨hline, by decide +kernel, by decide +kernel, ?_⟩
  exact returns_kept_from_documentation _ {} hline {} _ (by decide +kernel)

/-- One carriage return at the end of a file name, in metadata without another one or a line feed,
stands before every line feed of the document. -/
theorem file_name_turns_terminators :
    layout {} ((documentedClass "a.js\r" "").declaration {}).text =
      .ok (Text.join "\r\n".toList (["declare module AtomTypes \x7b", "    /**",
        "     * file: a.js", "     */", "    class A \x7b", "    \x7d", "\x7d", ""].map
          String.toList)) := by
  decide +kernel

end AmbientDecls
