import AmbientDecls.Declaration.OfMetadata
import AmbientDecls.Proofs.Metadata.Merge

/-!
# Names of declared classes

A class is declared once for every key of the merged table, under the name that the last file with
the key gives it. So a name is declared twice where two keys come to it, and only there
(`classes_declared_once`): the keys are distinct, the names need not be.
-/

namespace AmbientDecls

open Json

lemma Table.lookup_eq_some_iff {α : Type} {es : List (String × α)} (h : (es.map Prod.fst).Nodup)
    (key : String) (value : α) : es.lookup key = some value ↔ (key, value) ∈ es := by
  induction es with
  | nil => simp
  | cons e es ih =>
    obtain ⟨k, v⟩ := e
    rw [List.map_cons, List.nodup_cons] at h
    by_cases hk : key = k
    · subst hk
      have hrest : (key, value) ∉ es := fun hmem => h.1 (List.mem_map.mpr ⟨_, hmem, rfl⟩)
      rw [List.lookup_cons_self, List.mem_cons, or_iff_left hrest, Option.some.injEq,
        Prod.mk.injEq, and_iff_right rfl, eq_comm]
    · have hhead : (key, value) ≠ (k, v) := fun heq => hk (congrArg Prod.fst heq)
      rw [lookup_cons_of_ne hk, ih h.2, List.mem_cons, or_iff_right hhead]

/-- The line that opens the class begins with the keyword and the name. -/
def ClassDecl.Declares (c : ClassDecl) (name : String) : Prop :=
  ∃ rest, c.header = "class ".toList ++ name.toList ++ ' ' :: rest

lemma ClassDoc.declares_displayName (c : ClassDoc) (key : String) (o : ModuleOptions) :
    (c.declaration key o).Declares (c.displayName key) := by
  unfold ClassDecl.Declares declaration header
  cases c.declaredBase o with
  | none => exact ⟨['\x7b'], by simp⟩
  | some base => exact ⟨"extends ".toList ++ base.toList ++ " \x7b".toList, by simp⟩

namespace Metadata

/-- The names that the classes of a table are declared under, in order. -/
def declaredNames (m : Metadata) : List String :=
  m.classes.entries.map fun e => e.2.displayName e.1

/-- The class that the last table with the key has under it. -/
def lastClass? (ms : List Metadata) (key : String) : Option ClassDoc :=
  ms.reverse.findSome? fun m => m.classes.get? key

/-- No two keys come to the name of one class. -/
def DistinctNames (classUnder : String → Option ClassDoc) : Prop :=
  ∀ k₁ k₂, ∀ c₁ ∈ classUnder k₁, ∀ c₂ ∈ classUnder k₂,
    c₁.displayName k₁ = c₂.displayName k₂ → k₁ = k₂

lemma distinctNames_of_name {classUnder : String → Option ClassDoc}
    (h : ∀ key, ∀ c ∈ classUnder key, c.name = "" ∨ c.name = key) : DistinctNames classUnder := by
  have hname : ∀ key, ∀ c ∈ classUnder key, c.displayName key = key := by
    intro key c hc
    rcases h key c hc with hempty | hkey
    · rw [ClassDoc.displayName, if_pos hempty]
    · rw [ClassDoc.displayName, hkey, ite_self]
  intro k₁ k₂ c₁ hc₁ c₂ hc₂ heq
  rwa [hname k₁ c₁ hc₁, hname k₂ c₂ hc₂] at heq

lemma nodup_declaredNames_iff (m : Metadata) :
    m.declaredNames.Nodup ↔ DistinctNames m.classes.get? := by
  have hget : ∀ k c, m.classes.get? k = some c ↔ (k, c) ∈ m.classes.entries :=
    Table.lookup_eq_some_iff m.classes.nodup
  have hnodup : m.classes.entries.Nodup := List.Nodup.of_map _ m.classes.nodup
  rw [declaredNames, List.nodup_map_iff_inj_on hnodup]
  constructor
  · intro h k₁ k₂ c₁ hc₁ c₂ hc₂ heq
    exact congrArg Prod.fst (h (k₁, c₁) ((hget k₁ c₁).mp hc₁) (k₂, c₂) ((hget k₂ c₂).mp hc₂) heq)
  · rintro h ⟨k₁, c₁⟩ hc₁ ⟨k₂, c₂⟩ hc₂ heq
    rw [← hget] at hc₁ hc₂
    obtain rfl := h k₁ k₂ c₁ hc₁ c₂ hc₂ heq
    rw [hc₁] at hc₂
    rw [Option.some.inj hc₂]

/-- The lines that open the classes of a document have the names, in the order of the table. -/
lemma forall₂_declares_declaration (m : Metadata) (o : ModuleOptions) :
    List.Forall₂ ClassDecl.Declares (m.declaration o).classes m.declaredNames := by
  rw [declaredNames, declaration, List.forall₂_map_left_iff, List.forall₂_map_right_iff,
    List.forall₂_same]
  intro e _
  exact e.2.declares_displayName e.1 o

/-- Files that load are declared as one class for each key. The names are distinct if no two keys
come to one name, each by the last file that has it, and only if; so they are where no class has a
name other than its key. -/
theorem classes_declared_once (read : Path → Except OsError ByteArray) (paths : List Path)
    (ms : List Metadata) (hms : List.Forall₂ (Loads read) paths ms) (o : ModuleOptions) :
    ∃ m, (ofFiles read paths).result = .ok m ∧
      List.Forall₂ ClassDecl.Declares (m.declaration o).classes m.declaredNames ∧
      (m.declaredNames.Nodup ↔ DistinctNames (lastClass? ms)) ∧
      ((∀ key, ∀ c ∈ lastClass? ms key, c.name = "" ∨ c.name = key) → m.declaredNames.Nodup) := by
  obtain ⟨m, hresult, hmerged⟩ := ofFiles_of_loads hms
  have hlast : m.classes.get? = lastClass? ms := by
    funext key
    rw [hmerged.get?_eq, lastClass?, ← List.map_reverse, List.findSome?_map]
    rfl
  have hnodup : m.declaredNames.Nodup ↔ DistinctNames (lastClass? ms) := by
    rw [nodup_declaredNames_iff, hlast]
  exact ⟨m, hresult, m.forall₂_declares_declaration o, hnodup,
    fun h => hnodup.mpr (distinctNames_of_name h)⟩

theorem classes_declared_once_overlappingFiles :
    let ms := [ofEntries [("A", { name := "old" }), ("B", {}), ("A", { name := "new" })],
      ofEntries [("C", {}), ("A", { name := "newest" })]]
    List.Forall₂ (Loads overlappingFiles) [['a'], ['b']] ms ∧
      ∃ m, (ofFiles overlappingFiles [['a'], ['b']]).result = .ok m ∧
        List.Forall₂ ClassDecl.Declares (m.declaration {}).classes m.declaredNames ∧
        (m.declaredNames.Nodup ↔ DistinctNames (lastClass? ms)) ∧
        ((∀ key, ∀ c ∈ lastClass? ms key, c.name = "" ∨ c.name = key) →
          m.declaredNames.Nodup) := by
  have hms := List.forall₂_map_right_iff.mpr
    (holdsEntries_overlappingFiles.imp fun _ _ h => h.loads)
  exact ⟨hms, classes_declared_once overlappingFiles [['a'], ['b']] _ hms {}⟩

/-- A file with two classes of one name. -/
def namesakes (path : Path) : Except OsError ByteArray :=
  if path = ['a'] then
    .ok (utf8 (entriesDocument [("A", { name := "X" }), ("B", { name := "X" })]).compact)
  else .error .notFound

theorem classes_declared_twice :
    ∃ m, (ofFiles namesakes [['a']]).result = .ok m ∧ m.declaredNames = ["X", "X"] ∧
      (m.declaration {}).text = Text.unlines (["declare module AtomTypes \x7b", "/**", " */",
        "class X \x7b", "\x7d", "", "/**", " */", "class X \x7b", "\x7d", "\x7d"].map
          String.toList) := by
  have hfile : List.Forall₂ (HoldsEntries namesakes) [['a']]
      [[("A", { name := "X" }), ("B", { name := "X" })]] :=
    .cons ⟨_, _, writesEntries_entriesDocument _, Spaced.flatten _, rfl⟩ .nil
  exact ⟨_, ofFiles_of_holdsEntries hfile, by decide, by decide +kernel⟩

end Metadata

end AmbientDecls
