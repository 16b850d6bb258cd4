import AmbientDecls.Proofs.Declaration.Parts

/-!
# Signatures and headers on one line

Where no name and no type token holds a line feed, every header and every signature is one line: a
summary never brings a line feed into a type, and neither does grouping. A signature ends in a
semicolon, and trimmed it is the name with its modifier, without leading blanks, followed by a
colon or a parenthesis, so it begins with a mark only if the name does (`IsSignature`).
-/

namespace AmbientDecls

open Text

structure Method.OneLine (m : Method) : Prop where
  name : '\n' ∉ m.name.toList
  arguments : ∀ a ∈ m.arguments, '\n' ∉ a.name.toList ∧ ∀ t ∈ a.type, '\n' ∉ t.toList
  returnValues : ∀ r ∈ m.returnValues, ∀ t ∈ r.type, '\n' ∉ t.toList

structure ClassDoc.OneLine (c : ClassDoc) (key : String) : Prop where
  displayName : '\n' ∉ (c.displayName key).toList
  superClass : ∀ s ∈ c.superClass, '\n' ∉ s.toList
  properties : ∀ p ∈ c.classProperties ++ c.instanceProperties, '\n' ∉ p.name.toList
  methods : ∀ m ∈ c.classMethods ++ c.instanceMethods, m.OneLine

/-- No name and no type token of the module holds a line feed. -/
structure Metadata.OneLine (m : Metadata) (o : ModuleOptions) : Prop where
  moduleName : '\n' ∉ o.name.toList
  classes : ∀ e ∈ m.classes.entries, e.2.OneLine e.1

def ClassDoc.instanceNames (c : ClassDoc) : List String :=
  c.instanceProperties.map (·.name) ++ c.instanceMethods.map (·.name)

/-- The type token in the summary of a property. -/
def Property.token (p : Property) : Option String :=
  (p.summary.bind fun s => summaryType s.toList).map String.ofList

lemma newline_notMem_mapType {token : Option String} (h : ∀ t ∈ token, '\n' ∉ t.toList)
    (position : Position) : '\n' ∉ (mapType token position).toList := by
  have hd : '\n' ∉ (token.getD "").toList := by
    cases token with
    | none => decide
    | some t => exact h t rfl
  unfold mapType
  split <;> first | exact hd | decide

lemma newline_notMem_textOfParam {p : Param TypeExpr} (hn : '\n' ∉ p.name.toList)
    (ht : '\n' ∉ p.type.text) : '\n' ∉ TypeExpr.textOfParam p := by
  rw [TypeExpr.textOfParam]
  simp only [List.mem_append, not_or]
  refine ⟨⟨⟨hn, ?_⟩, by decide⟩, ht⟩
  split <;> decide

lemma newline_notMem_textOfParams {ps : List (Param TypeExpr)}
    (h : ∀ p ∈ ps, '\n' ∉ TypeExpr.textOfParam p) : '\n' ∉ TypeExpr.textOfParams ps := by
  induction ps with
  | nil => exact List.not_mem_nil
  | cons p ps ih =>
    rw [List.forall_mem_cons] at h
    cases ps with
    | nil => exact h.1
    | cons q ps =>
      rw [TypeExpr.textOfParams, List.mem_append, List.mem_append, not_or, not_or]
      exact ⟨⟨h.1, by decide⟩, ih h.2⟩

lemma newline_notMem_groupArguments {as : List Argument}
    (h : ∀ a ∈ as, '\n' ∉ a.name.toList ∧ ∀ t ∈ a.type, '\n' ∉ t.toList) :
    ∀ p ∈ groupArguments as, '\n' ∉ TypeExpr.textOfParam p := by
  induction as with
  | nil => exact fun _ hp => absurd hp List.not_mem_nil
  | cons a as ih =>
    rw [List.forall_mem_cons] at h
    have hi := newline_notMem_textOfParams (ih h.2)
    rw [groupArguments]
    split
    · refine List.forall_mem_singleton.mpr (newline_notMem_textOfParam h.1.1 ?_)
      rw [TypeExpr.text, List.cons_append, List.mem_cons, List.mem_append, not_or, not_or]
      exact ⟨by decide, hi, by decide⟩
    · refine List.forall_mem_singleton.mpr (newline_notMem_textOfParam h.1.1 ?_)
      rw [TypeExpr.text, List.cons_append, List.mem_cons, List.mem_append, not_or, not_or]
      exact ⟨by decide, hi, by decide⟩
    · refine List.forall_mem_cons.mpr ⟨newline_notMem_textOfParam h.1.1 ?_, ih h.2⟩
      rw [TypeExpr.text]
      exact newline_notMem_mapType h.1.2 _

lemma newline_notMem_join {separator : Text} (hs : '\n' ∉ separator) {ls : List Text}
    (h : ∀ l ∈ ls, '\n' ∉ l) : '\n' ∉ Text.join separator ls := by
  induction ls with
  | nil => exact List.not_mem_nil
  | cons l ls ih =>
    rw [List.forall_mem_cons] at h
    cases ls with
    | nil => exact h.1
    | cons k ls =>
      rw [Text.join, List.mem_append, List.mem_append, not_or, not_or]
      exact ⟨⟨h.1, hs⟩, ih h.2⟩

lemma newline_notMem_returnType {rs : List ReturnValue}
    (h : ∀ r ∈ rs, ∀ t ∈ r.type, '\n' ∉ t.toList) : '\n' ∉ returnType rs := by
  have ht : ∀ t ∈ returnTypes rs, '\n' ∉ t.toList := by
    intro t ht
    rw [returnTypes, List.mem_eraseDups] at ht
    obtain ⟨token, htoken, rfl⟩ := List.mem_map.mp ht
    obtain ⟨r, hr, hrt⟩ := List.mem_filterMap.mp (List.mem_filter.mp htoken).1
    refine newline_notMem_mapType (fun t' ht' => ?_) _
    rw [← Option.some.inj ht']
    exact h r hr token hrt
  rw [returnType]
  split
  · decide
  · split
    · decide
    · exact newline_notMem_join (by decide) (List.forall_mem_map.mpr ht)

lemma newline_notMem_upToBrace {s t : Text} (h : upToBrace s = some t) : '\n' ∉ t := by
  induction s generalizing t with
  | nil => cases h
  | cons c s ih =>
    rw [upToBrace] at h
    split at h
    · rw [← Option.some.inj h]
      exact List.not_mem_nil
    · split at h
      · cases h
      · next hc =>
        obtain ⟨u, hu, rfl⟩ := Option.map_eq_some_iff.mp h
        rw [List.mem_cons, not_or]
        exact ⟨fun hn => hc hn.symm, ih hu⟩

/-- The type token of a summary is on one line, whatever the summary is. -/
lemma newline_notMem_summaryType {s t : Text} (h : summaryType s = some t) : '\n' ∉ t := by
  induction s with
  | nil => cases h
  | cons c s ih =>
    rw [summaryType] at h
    split at h
    · split at h
      · next token htoken =>
        rw [← Option.some.inj h]
        exact newline_notMem_upToBrace htoken
      · exact ih h
    · exact ih h

/-! ### The form of a signature -/

/-- A signature for a name: one line that ends in a semicolon and has a colon or a parenthesis
behind the name. -/
structure IsSignature (name : Text) (t : Text) : Prop where
  newline : '\n' ∉ t
  form : ∃ c rest, (c = ':' ∨ c = '(') ∧ t = name ++ c :: (rest ++ [';'])

lemma Property.newline_notMem_token (p : Property) : ∀ t ∈ p.token, '\n' ∉ t.toList := by
  intro t ht
  obtain ⟨token, htoken, rfl⟩ := Option.map_eq_some_iff.mp ht
  obtain ⟨s, -, hs⟩ := Option.bind_eq_some_iff.mp htoken
  rw [String.toList_ofList]
  exact newline_notMem_summaryType hs

lemma Property.isSignature (p : Property) (owner : Owner) (h : '\n' ∉ p.name.toList) :
    IsSignature (owner.modifier ++ p.name.toList) (p.declaration owner).signature := by
  have hm : '\n' ∉ owner.modifier := by cases owner <;> decide
  have hsig : (p.declaration owner).signature =
      owner.modifier ++ p.name.toList ++ ": ".toList ++ (mapType p.token .other).toList ++ [';'] :=
    rfl
  rw [hsig]
  constructor
  · simp only [List.mem_append, not_or]
    exact ⟨⟨⟨⟨hm, h⟩, by decide⟩, newline_notMem_mapType p.newline_notMem_token _⟩, by decide⟩
  · refine ⟨':', ' ' :: (mapType p.token .other).toList, .inl rfl, ?_⟩
    simp only [List.append_assoc]
    rfl

lemma Method.isSignature (m : Method) (owner : Owner) (h : m.OneLine) :
    IsSignature (owner.modifier ++ m.name.toList) (m.declaration owner).signature := by
  have hm : '\n' ∉ owner.modifier := by cases owner <;> decide
  have hp := newline_notMem_textOfParams (newline_notMem_groupArguments h.arguments)
  have hr := newline_notMem_returnType h.returnValues
  have ht : '\n' ∉ (if m.isConstructor then [] else ": ".toList ++ returnType m.returnValues) := by
    split
    · exact List.not_mem_nil
    · rw [List.mem_append, not_or]
      exact ⟨by decide, hr⟩
  have hsig : (m.declaration owner).signature =
      owner.modifier ++ m.name.toList ++ '(' ::
        ((TypeExpr.textOfParams (groupArguments m.arguments) ++ ')' ::
          (if m.isConstructor then [] else ": ".toList ++ returnType m.returnValues)) ++ [';']) := by
    simp [declaration]
  rw [hsig]
  constructor
  · simp only [List.mem_append, List.mem_cons, not_or]
    exact ⟨⟨hm, h.name⟩, by decide, ⟨hp, by decide, ht⟩, by decide, List.not_mem_nil⟩
  · exact ⟨'(', _, .inr rfl, rfl⟩

namespace IsSignature

variable {name t : Text} (h : IsSignature name t)

include h

lemma isRecord_tab : IsRecord ('\t' :: t) where
  newline := by
    rw [List.mem_cons, not_or]
    exact ⟨by decide, h.newline⟩
  last := by
    obtain ⟨c, rest, -, rfl⟩ := h.form
    rw [← List.cons_append, List.append_cons, ← List.append_assoc, List.getLast?_concat]
    decide

lemma exists_trim_tab : ∃ c rest, (c = ':' ∨ c = '(') ∧
    Text.trim ('\t' :: t) = name.trimStart ++ c :: (rest ++ [';']) := by
  obtain ⟨c, rest, hc, rfl⟩ := h.form
  have hblank : isBlank c = false := by rcases hc with rfl | rfl <;> rfl
  have htab : IsBlankText ['\t'] := isBlankText_replicate (n := 1) rfl
  refine ⟨c, rest, hc, ?_⟩
  rw [← List.singleton_append, trim_blank_append htab, List.append_cons,
    ← List.append_assoc, trim_concat rfl, List.append_assoc, List.singleton_append,
    trimStart_append_cons hblank, List.append_assoc, List.cons_append]

/-- A mark that begins the trimmed line begins the name. -/
lemma prefix_of_prefix_trim_tab {p : Text} (hp : p <+: Text.trim ('\t' :: t)) (hcolon : ':' ∉ p)
    (hparen : '(' ∉ p) : p <+: name.trimStart := by
  obtain ⟨c, rest, hc, ht⟩ := h.exists_trim_tab
  rw [ht] at hp
  refine prefix_of_prefix_append_cons ?_ hp
  rcases hc with rfl | rfl
  · exact hcolon
  · exact hparen

lemma getLast?_trim_tab : (Text.trim ('\t' :: t)).getLast? = some ';' := by
  obtain ⟨c, rest, -, ht⟩ := h.exists_trim_tab
  rw [ht, ← List.cons_append, ← List.append_assoc, List.getLast?_concat]

end IsSignature

lemma trimStart_static (name : Text) :
    trimStart ("static ".toList ++ name) = "static ".toList ++ name :=
  trimStart_eq_self fun _ hc => Option.some.inj hc ▸ rfl

lemma not_prefix_trimStart_static (name : Text) {c : Char} (hc : c ≠ 's') (p : Text) :
    ¬(c :: p) <+: trimStart ("static ".toList ++ name) := by
  rw [trimStart_static]
  exact fun h => hc (List.cons_prefix_cons.mp h).1

/-- A header: one line that starts with a letter and ends in an opening brace. -/
structure IsHeader (t : Text) : Prop where
  newline : '\n' ∉ t
  head : t.head? = some 'c' ∨ t.head? = some 'd'
  last : t.getLast? = some '\x7b'

lemma IsHeader.head_ne {t : Text} (h : IsHeader t) {c : Char} (hc : c ≠ 'c') (hd : c ≠ 'd') :
    t.head? ≠ some c := by
  intro ht
  rcases h.head with hh | hh
  · rw [ht] at hh
    exact hc (Option.some.inj hh)
  · rw [ht] at hh
    exact hd (Option.some.inj hh)

lemma IsHeader.trim_eq {t : Text} (h : IsHeader t) : t.trim = t := by
  refine IsTrimmed.trim_eq ⟨fun c hc => ?_, fun c hc => ?_⟩
  · rcases h.head with hh | hh
    · rw [hh] at hc
      rw [← Option.some.inj hc]
      rfl
    · rw [hh] at hc
      rw [← Option.some.inj hc]
      rfl
  · rw [h.last] at hc
    rw [← Option.some.inj hc]
    rfl

lemma IsHeader.isRecord {t : Text} (h : IsHeader t) : IsRecord t where
  newline := h.newline
  last := by
    rw [h.last]
    decide

lemma isRecord_closing : IsRecord ['\x7d'] := ⟨by decide, by decide⟩

lemma ModuleDecl.isHeader {m : ModuleDecl} (h : '\n' ∉ m.name.toList) : IsHeader m.header where
  newline := by
    unfold header
    rw [List.mem_append, List.mem_append, not_or, not_or]
    exact ⟨⟨by simp, h⟩, by simp⟩
  head := by
    unfold header
    rw [List.append_assoc, List.head?_append_of_ne_nil _ (by simp)]
    exact .inr rfl
  last := by
    unfold header
    rw [List.getLast?_append_of_ne_nil _ (by simp)]
    rfl

lemma ClassDoc.OneLine.isHeader {c : ClassDoc} {key : String} (h : c.OneLine key)
    (o : ModuleOptions) : IsHeader (c.header key o) where
  newline := by
    unfold header
    rw [List.mem_append, List.mem_append, List.mem_append, not_or, not_or, not_or]
    refine ⟨⟨⟨by simp, h.displayName⟩, ?_⟩, by simp⟩
    split
    · exact List.not_mem_nil
    · next base hbase =>
      rw [List.mem_append, not_or]
      exact ⟨by simp, h.superClass base (Option.filter_eq_some_iff.mp hbase).1⟩
  head := by
    unfold header
    rw [List.append_assoc, List.append_assoc, List.head?_append_of_ne_nil _ (by simp)]
    exact .inl rfl
  last := by
    unfold header
    rw [List.getLast?_append_of_ne_nil _ (by simp)]
    rfl

lemma ClassDoc.OneLine.forall_mem_groups {c : ClassDoc} {key : String} (h : c.OneLine key)
    (o : ModuleOptions) {N : Text → Prop}
    (hstatic : ∀ name, N ("static ".toList ++ name))
    (hinstance : ∀ n ∈ c.instanceNames, N n.toList) :
    ∀ g ∈ (c.declaration key o).groups, ∀ m ∈ g, ∃ name, N name ∧ IsSignature name m.signature := by
  have hp := List.forall_mem_append.mp h.properties
  have hm := List.forall_mem_append.mp h.methods
  have hi := List.forall_mem_append.mp hinstance
  apply ClassDoc.forall_mem_groups
  · intro p hpc
    exact ⟨_, hstatic _, p.isSignature .classItself (hp.1 p hpc)⟩
  · intro p hpi
    exact ⟨_, hi.1 _ (List.mem_map_of_mem hpi), p.isSignature .instances (hp.2 p hpi)⟩
  · intro m hmc
    exact ⟨_, hstatic _, m.isSignature .classItself (hm.1 m hmc)⟩
  · intro m hmi
    exact ⟨_, hi.2 _ (List.mem_map_of_mem hmi), m.isSignature .instances (hm.2 m hmi)⟩

/-- Two classes, with documentation and types that hold the marks a document is read by. -/
def sampleMetadata : Metadata where
  classes := {
    entries := [
      ("A", {
        description := some "a */ \x7b\n/**\r\n\x7d"
        filename := some "a*/b"
        superClass := some "Model"
        classProperties := [{ name := "*/", description := some "/*", summary := some "\x7bNumber\x7d" }]
        instanceMethods := [
          { name := "constructor", arguments := [
            { name := "f", type := some "Function", description := some "*/" },
            { name := "x", type := some "/*" }] },
          { name := "go", returnValues := [{ type := some "\x7d \x7b" }] }] }),
      ("B", { superClass := some "A" })] }

lemma oneLine_sampleMetadata : sampleMetadata.OneLine {} where
  moduleName := by decide
  classes := by
    refine List.forall_mem_cons.mpr ⟨?_, List.forall_mem_singleton.mpr ?_⟩
    · exact ⟨by decide, by decide, by decide, List.forall_mem_cons.mpr
        ⟨⟨by decide, by decide, by decide⟩, List.forall_mem_singleton.mpr
          ⟨by decide, by decide, by decide⟩⟩⟩
    · exact ⟨by decide, by decide, by decide, fun _ h => absurd h List.not_mem_nil⟩

end AmbientDecls
