import AmbientDecls.Proofs.Metadata.RoundTrip

/-!
# Merging metadata

Files are loaded in order and merged into one table, until one cannot be loaded. The merged table
is told by the tables of the files (`Table.IsMerge`): one more file keeps that, so the whole run
does. Since a table is what its entries make, it does not matter whether entries under one key stand
in one document or in several files.
-/

namespace AmbientDecls

open Json

/-- Either there is something for each member of a list, or there is a first one that fails. -/
lemma exists_forall₂_or_first {α β ε : Type} {R : α → β → Prop} {F : α → ε → Prop}
    (h : ∀ x, (∃ y, R x y) ∨ ∃ e, F x e) (xs : List α) :
    (∃ ys, List.Forall₂ R xs ys) ∨
      ∃ before x after e, xs = before ++ x :: after ∧ (∀ z ∈ before, ∃ y, R z y) ∧ F x e := by
  induction xs with
  | nil => exact .inl ⟨[], .nil⟩
  | cons x xs ih =>
    rcases h x with ⟨y, hy⟩ | ⟨e, he⟩
    · rcases ih with ⟨ys, hys⟩ | ⟨before, bad, after, e, rfl, hbefore, he⟩
      · exact .inl ⟨y :: ys, .cons hy hys⟩
      · exact .inr ⟨x :: before, bad, after, e, rfl,
          List.forall_mem_cons.mpr ⟨⟨y, hy⟩, hbefore⟩, he⟩
    · exact .inr ⟨[], x, xs, e, rfl, List.forall_mem_nil _, he⟩

namespace Table

variable {α : Type} {tables : List (Table α)} {t u : Table α} {n k : Nat}

/-- The table is what tables come to that are merged in order. So many of their entries take the
place of an earlier one. -/
structure IsMerge (tables : List (Table α)) (merged : Table α) (replacements : Nat) : Prop where
  keys_eq : merged.keys = (tables.flatMap Table.keys).eraseDups
  nodup : merged.keys.Nodup
  get?_eq : ∀ key, merged.get? key = tables.reverse.findSome? (·.get? key)
  size_eq : replacements + merged.size = (tables.flatMap Table.entries).length

lemma isMerge_nil : IsMerge [] (empty : Table α) 0 where
  keys_eq := rfl
  nodup := List.nodup_nil
  get?_eq _ := rfl
  size_eq := rfl

lemma length_keys (t : Table α) : t.keys.length = t.size := List.length_map _

/-- Every entry of a later table either takes the place of one or comes to those that are there. -/
lemma size_insertMany (t u : Table α) :
    (u.keys.filter t.contains).length + (t.insertMany u.entries).size = t.size + u.size := by
  have hkeys : (t.insertMany u.entries).keys =
      t.keys ++ u.keys.filter (fun key => ! t.contains key) := by
    rw [keys_insertMany]
    exact eraseDups_append_of_nodup t.nodup_keys u.nodup_keys
  have hsplit := List.length_eq_length_filter_add (l := u.keys) t.contains
  rw [← length_keys (t.insertMany _), hkeys, List.length_append, length_keys, ← length_keys u]
  omega

/-- One more table is merged. -/
lemma IsMerge.insertMany (h : IsMerge tables t n) (u : Table α) :
    IsMerge (tables ++ [u]) (t.insertMany u.entries)
      (n + (u.keys.filter t.contains).length) where
  keys_eq := by
    have herase : (tables.flatMap Table.keys).eraseDups.eraseDups =
        (tables.flatMap Table.keys).eraseDups := eraseDups_of_nodup (h.keys_eq ▸ h.nodup)
    have hremove : u.keys.removeAll (tables.flatMap Table.keys).eraseDups =
        u.keys.removeAll (tables.flatMap Table.keys) := by simp [List.removeAll]
    -- It makes no difference that the earlier keys have lost their repetitions already.
    rw [keys_insertMany, h.keys_eq, List.flatMap_append, List.flatMap_singleton,
      List.eraseDups_append, List.eraseDups_append, herase]
    exact congrArg (_ ++ List.eraseDups ·) hremove
  nodup := nodup_keys _
  get?_eq key := by
    rw [get?_insertMany _ u.nodup, h.get?_eq, List.reverse_concat, List.findSome?_cons]
    cases hu : u.get? key with
    | none =>
      rw [show u.entries.lookup key = none from hu]
      rfl
    | some v =>
      rw [show u.entries.lookup key = some v from hu]
      rfl
  size_eq := by
    have hsize := size_insertMany t u
    rw [List.flatMap_append, List.flatMap_singleton, List.length_append, ← h.size_eq, Nat.add_assoc,
      hsize, Nat.add_assoc]
    rfl

/-- Tables that are merged twice over come to what they come to once. -/
lemma IsMerge.eq_of_append_self (h : IsMerge tables t n) (h' : IsMerge (tables ++ tables) u k) :
    u = t := by
  refine ext_get? ?_ fun key => ?_
  · have hremove : (tables.flatMap Table.keys).removeAll (tables.flatMap Table.keys) = [] := by
      simp [List.removeAll]
    rw [h.keys_eq, h'.keys_eq, List.flatMap_append, List.eraseDups_append, hremove,
      List.eraseDups_nil, List.append_nil]
  · rw [h.get?_eq, h'.get?_eq, List.reverse_append, List.findSome?_append, Option.or_self]

end Table

/-- The same error about another source. -/
def LoadError.about (origin : Text) : LoadError → LoadError
  | unreadable _ fault => unreadable origin fault
  | malformed _ cause location => malformed origin cause location

lemma LoadError.cause_about (origin : Text) (e : LoadError) : (e.about origin).cause = e.cause := by
  cases e <;> rfl

/-- The event is that a class takes the place of another. -/
def Event.isDuplicateClass : Event → Bool
  | duplicateClass .. => true
  | _ => false

namespace Metadata

variable {read : Path → Except OsError ByteArray} {path : Path} {paths : List Path}

/-- The file can be read, is UTF-8 and holds the metadata. -/
def Loads (read : Path → Except OsError ByteArray) (path : Path) (m : Metadata) : Prop :=
  ∃ bytes s, read path = .ok bytes ∧ String.fromUTF8? bytes = some s ∧ ofJson s.toList = .ok m

/-- Why a file does not load. -/
inductive Fails (read : Path → Except OsError ByteArray) (path : Path) : LoadError → Prop
  | unread {error : OsError} (h : read path = .error error) :
      Fails read path (.unreadable path (.os error))
  | notText {bytes : ByteArray} (h : read path = .ok bytes)
      (hbytes : String.fromUTF8? bytes = none) : Fails read path (.unreadable path .notUtf8)
  | notMetadata {bytes : ByteArray} {s : String} {fault : Fault} (h : read path = .ok bytes)
      (hbytes : String.fromUTF8? bytes = some s) (hs : ofJson s.toList = .error fault) :
      Fails read path (.malformed path fault.cause (fault.location s.toList))

lemma Loads.ofFile_eq {m : Metadata} (h : Loads read path m) : ofFile read path = .ok m := by
  obtain ⟨bytes, s, hread, hbytes, hs⟩ := h
  simp only [ofFile, hread, ofBytes, hbytes, hs]

lemma Fails.ofFile_eq {e : LoadError} (h : Fails read path e) : ofFile read path = .error e := by
  cases h with
  | unread h => simp only [ofFile, h]
  | notText h hbytes => simp only [ofFile, h, ofBytes, hbytes]
  | notMetadata h hbytes hs => simp only [ofFile, h, ofBytes, hbytes, hs]

lemma loads_or_fails (read : Path → Except OsError ByteArray) (path : Path) :
    (∃ m, Loads read path m) ∨ ∃ e, Fails read path e := by
  cases hread : read path with
  | error error => exact .inr ⟨_, .unread hread⟩
  | ok bytes =>
    cases hbytes : String.fromUTF8? bytes with
    | none => exact .inr ⟨_, .notText hread hbytes⟩
    | some s =>
      cases hs : ofJson s.toList with
      | error fault => exact .inr ⟨_, .notMetadata hread hbytes hs⟩
      | ok m => exact .inl ⟨m, bytes, s, hread, hbytes, hs⟩

/-- What is loaded does not depend on the name of the source, nor does the error but for it. -/
lemma ofBytes_about (origin path : Text) (bytes : ByteArray) :
    ofBytes origin bytes = (ofBytes path bytes).mapError (LoadError.about origin) := by
  unfold ofBytes
  split
  · rfl
  · split
    · rfl
    · rfl

/-! ### Many files -/

lemma ofFilesFrom_cons_of_loads {m later : Metadata} (h : Loads read path later) :
    ofFilesFrom read m (path :: paths) = (ofFilesFrom read (m.merge later) paths).after
      (.loaded path later.classes.size ::
        (m.shared later).map fun key => .duplicateClass key path) := by
  simp only [ofFilesFrom, h.ofFile_eq]

lemma ofFilesFrom_cons_of_fails {m : Metadata} {e : LoadError} (h : Fails read path e) :
    ofFilesFrom read m (path :: paths) = .error e := by
  simp only [ofFilesFrom, h.ofFile_eq]

lemma countP_isDuplicateClass (path : Path) (size : Nat) (keys : List String) :
    ((Event.loaded path size :: keys.map fun key => .duplicateClass key path).countP
      Event.isDuplicateClass) = keys.length := by
  rw [List.countP_cons_of_neg (by simp [Event.isDuplicateClass]), List.countP_map]
  exact List.countP_eq_length.mpr fun _ _ => rfl

/-- Files that all load are merged into what was there before. -/
lemma ofFilesFrom_of_loads {ms : List Metadata} (h : List.Forall₂ (Loads read) paths ms)
    (m : Metadata) {tables : List (Table ClassDoc)} {n : Nat}
    (hm : Table.IsMerge tables m.classes n) :
    ∃ merged, (ofFilesFrom read m paths).result = .ok merged ∧
      Table.IsMerge (tables ++ ms.map (·.classes)) merged.classes
        (n + (ofFilesFrom read m paths).events.countP Event.isDuplicateClass) := by
  induction h generalizing m tables n with
  | nil => exact ⟨m, rfl, by rwa [List.map_nil, List.append_nil]⟩
  | @cons path later paths ms hpath _ ih =>
    obtain ⟨merged, hresult, hmerged⟩ := ih (m.merge later) (hm.insertMany later.classes)
    rw [ofFilesFrom_cons_of_loads hpath]
    refine ⟨merged, hresult, ?_⟩
    rw [List.map_cons, List.append_cons, Logged.after, List.countP_append,
      countP_isDuplicateClass, ← Nat.add_assoc]
    exact hmerged

/-- The first file that does not load is the error, whatever is behind it. -/
lemma ofFilesFrom_of_fails {before after : List Path} {e : LoadError}
    (h : ∀ p ∈ before, ∃ m, Loads read p m) (he : Fails read path e) (m : Metadata) :
    (ofFilesFrom read m (before ++ path :: after)).result = .error e := by
  induction before generalizing m with
  | nil =>
    rw [List.nil_append, ofFilesFrom_cons_of_fails he]
    rfl
  | cons p before ih =>
    rw [List.forall_mem_cons] at h
    obtain ⟨later, hp⟩ := h.1
    rw [List.cons_append, ofFilesFrom_cons_of_loads hp]
    exact ih h.2 _

lemma exists_forall₂_loads_iff :
    (∃ ms, List.Forall₂ (Loads read) paths ms) ↔ ∀ p ∈ paths, ∃ m, Loads read p m := by
  induction paths with
  | nil => simp
  | cons path paths ih =>
    rw [List.forall_mem_cons, ← ih]
    constructor
    · rintro ⟨_, _ | ⟨hpath, hms⟩⟩
      exact ⟨⟨_, hpath⟩, _, hms⟩
    · rintro ⟨⟨m, hpath⟩, ms, hms⟩
      exact ⟨m :: ms, .cons hpath hms⟩

/-- Either all files load, or one of them is the first that does not. -/
lemma forall_loads_or_exists_fails (read : Path → Except OsError ByteArray) (paths : List Path) :
    (∀ p ∈ paths, ∃ m, Loads read p m) ∨
      ∃ before path after e, paths = before ++ path :: after ∧
        (∀ p ∈ before, ∃ m, Loads read p m) ∧ Fails read path e := by
  rw [← exists_forall₂_loads_iff]
  exact exists_forall₂_or_first (loads_or_fails read) paths

lemma ofFiles_of_loads {ms : List Metadata} (h : List.Forall₂ (Loads read) paths ms) :
    ∃ merged, (ofFiles read paths).result = .ok merged ∧
      Table.IsMerge (ms.map (·.classes)) merged.classes
        ((ofFiles read paths).events.countP Event.isDuplicateClass) := by
  obtain ⟨merged, hresult, hmerged⟩ := ofFilesFrom_of_loads h {} Table.isMerge_nil
  rw [List.nil_append, Nat.zero_add] at hmerged
  exact ⟨merged, hresult, hmerged⟩

lemma ofFiles_eq_ok_iff :
    (∃ m, (ofFiles read paths).result = .ok m) ↔ ∀ p ∈ paths, ∃ m, Loads read p m := by
  constructor
  · rintro ⟨m, hm⟩
    rcases forall_loads_or_exists_fails read paths with h | ⟨before, path, after, e, rfl, h, he⟩
    · exact h
    · cases hm.symm.trans (ofFilesFrom_of_fails h he {})
  · intro h
    obtain ⟨ms, hms⟩ := exists_forall₂_loads_iff.mpr h
    obtain ⟨merged, hresult, -⟩ := ofFiles_of_loads hms
    exact ⟨merged, hresult⟩

lemma ofFiles_eq_error_iff {e : LoadError} :
    (ofFiles read paths).result = .error e ↔
      ∃ before path after, paths = before ++ path :: after ∧
        (∀ p ∈ before, ∃ m, Loads read p m) ∧ Fails read path e := by
  constructor
  · intro h
    rcases forall_loads_or_exists_fails read paths with
      hall | ⟨before, path, after, e', rfl, hbefore, he⟩
    · obtain ⟨m, hm⟩ := ofFiles_eq_ok_iff.mpr hall
      cases hm.symm.trans h
    · cases h.symm.trans (ofFilesFrom_of_fails hbefore he {})
      exact ⟨before, path, after, rfl, hbefore, he⟩
  · rintro ⟨before, path, after, rfl, hbefore, he⟩
    exact ofFilesFrom_of_fails hbefore he {}

lemma ofFiles_append_self (read : Path → Except OsError ByteArray) (paths : List Path) :
    (ofFiles read (paths ++ paths)).result = (ofFiles read paths).result := by
  rcases forall_loads_or_exists_fails read paths with h | ⟨before, path, after, e, rfl, h, he⟩
  · obtain ⟨ms, hms⟩ := exists_forall₂_loads_iff.mpr h
    obtain ⟨⟨once⟩, honce, hmerge⟩ := ofFiles_of_loads hms
    obtain ⟨⟨twice⟩, htwice, hmerge'⟩ := ofFiles_of_loads (List.rel_append hms hms)
    rw [List.map_append] at hmerge'
    have heq : twice = once := hmerge.eq_of_append_self hmerge'
    rw [htwice, honce, heq]
  · rw [List.append_assoc, List.cons_append]
    exact (ofFilesFrom_of_fails h he {}).trans (ofFilesFrom_of_fails h he {}).symm

lemma ofFiles_singleton (read : Path → Except OsError ByteArray) (path : Path) :
    (ofFiles read [path]).result = ofFile read path := by
  rcases loads_or_fails read path with ⟨m, hm⟩ | ⟨e, he⟩
  · have hmerge : ({} : Metadata).merge m = m := ofEntries_entries m
    rw [ofFiles, ofFilesFrom_cons_of_loads hm, hmerge, hm.ofFile_eq]
    rfl
  · rw [ofFiles, ofFilesFrom_cons_of_fails he, he.ofFile_eq]
    rfl

/-- The file is a document whose table of classes has these entries, of which several may have one
key. -/
def HoldsEntries (read : Path → Except OsError ByteArray) (path : Path)
    (entries : List (String × ClassDoc)) : Prop :=
  ∃ d t, WritesEntries entries d ∧ Spaced d.tokens t ∧ read path = .ok (utf8 t)

lemma HoldsEntries.loads {entries : List (String × ClassDoc)} (h : HoldsEntries read path entries) :
    Loads read path (ofEntries entries) := by
  obtain ⟨d, t, hd, ht, hread⟩ := h
  refine ⟨utf8 t, String.ofList t, hread, fromUTF8?_utf8 t, ?_⟩
  rw [String.toList_ofList]
  exact ofJson_of_writesEntries hd ht

lemma merge_ofEntries (m : Metadata) (entries : List (String × ClassDoc)) :
    m.merge (ofEntries entries) = ⟨m.classes.insertMany entries⟩ :=
  congrArg Metadata.mk (Table.insertMany_insertMany m.classes Table.empty entries)

/-- Merging documents inserts all their entries in order. -/
lemma ofFilesFrom_of_holdsEntries {entries : List (List (String × ClassDoc))}
    (h : List.Forall₂ (HoldsEntries read) paths entries) (m : Metadata) :
    (ofFilesFrom read m paths).result = .ok ⟨m.classes.insertMany entries.flatten⟩ := by
  induction h generalizing m with
  | nil => rfl
  | @cons path e paths es hpath _ ih =>
    rw [ofFilesFrom_cons_of_loads hpath.loads, merge_ofEntries, List.flatten_cons,
      Table.insertMany_append]
    exact ih _

lemma ofFiles_of_holdsEntries {entries : List (List (String × ClassDoc))}
    (h : List.Forall₂ (HoldsEntries read) paths entries) :
    (ofFiles read paths).result = .ok (ofEntries entries.flatten) :=
  ofFilesFrom_of_holdsEntries h {}

/-- Two files in which keys are repeated, and one that is not UTF-8. -/
def overlappingFiles (path : Path) : Except OsError ByteArray :=
  if path = ['a'] then
    .ok (utf8 (entriesDocument
      [("A", { name := "old" }), ("B", {}), ("A", { name := "new" })]).compact)
  else if path = ['b'] then
    .ok (utf8 (entriesDocument [("C", {}), ("A", { name := "newest" })]).compact)
  else if path = ['c'] then .ok ⟨#[0xff]⟩
  else .error .notFound

lemma holdsEntries_overlappingFiles :
    List.Forall₂ (HoldsEntries overlappingFiles) [['a'], ['b']]
      [[("A", { name := "old" }), ("B", {}), ("A", { name := "new" })],
        [("C", {}), ("A", { name := "newest" })]] :=
  .cons ⟨_, _, writesEntries_entriesDocument _, Spaced.flatten _, rfl⟩ <|
    .cons ⟨_, _, writesEntries_entriesDocument _, Spaced.flatten _, rfl⟩ .nil

lemma fails_overlappingFiles :
    Fails overlappingFiles ['c'] (.unreadable ['c'] .notUtf8) := .notText rfl (by decide)

/-- Files are merged in order if they all load, and the first one that does not is the error.
Loading files twice over makes no difference. -/
theorem ofFiles_merges (read : Path → Except OsError ByteArray) (paths : List Path) :
    ((∃ m, (ofFiles read paths).result = .ok m) ↔ ∀ p ∈ paths, ∃ m, Loads read p m) ∧
    (∀ e, (ofFiles read paths).result = .error e ↔
      ∃ before path after, paths = before ++ path :: after ∧
        (∀ p ∈ before, ∃ m, Loads read p m) ∧ Fails read path e) ∧
    (∀ m, (ofFiles read paths).result = .ok m →
      ∃ ms, List.Forall₂ (Loads read) paths ms ∧
        Table.IsMerge (ms.map (·.classes)) m.classes
          ((ofFiles read paths).events.countP Event.isDuplicateClass)) ∧
    (ofFiles read (paths ++ paths)).result = (ofFiles read paths).result := by
  refine ⟨ofFiles_eq_ok_iff, fun e => ofFiles_eq_error_iff, fun m hm => ?_,
    ofFiles_append_self read paths⟩
  obtain ⟨ms, hms⟩ := exists_forall₂_loads_iff.mpr (ofFiles_eq_ok_iff.mp ⟨m, hm⟩)
  obtain ⟨merged, hresult, hmerged⟩ := ofFiles_of_loads hms
  cases hm.symm.trans hresult
  exact ⟨ms, hms, hmerged⟩

theorem ofFiles_merges_overlappingFiles :
    (∃ m ms, (ofFiles overlappingFiles [['a'], ['b']]).result = .ok m ∧
      m.classes.entries = [("A", { name := "newest" }), ("B", {}), ("C", {})] ∧
      List.Forall₂ (Loads overlappingFiles) [['a'], ['b']] ms ∧
      Table.IsMerge (ms.map (·.classes)) m.classes
        ((ofFiles overlappingFiles [['a'], ['b']]).events.countP Event.isDuplicateClass)) ∧
    (ofFiles overlappingFiles [['a'], ['c'], ['d']]).result =
      .error (.unreadable ['c'] .notUtf8) := by
  have hresult := ofFiles_of_holdsEntries holdsEntries_overlappingFiles
  obtain ⟨ms, hms, hmerge⟩ := (ofFiles_merges overlappingFiles [['a'], ['b']]).2.2.1 _ hresult
  have hbefore : ∀ p ∈ [['a']], ∃ m, Loads overlappingFiles p m :=
    List.forall_mem_singleton.mpr ⟨_, (List.forall₂_cons.mp holdsEntries_overlappingFiles).1.loads⟩
  exact ⟨⟨_, ms, hresult, rfl, hms, hmerge⟩,
    ((ofFiles_merges overlappingFiles [['a'], ['c'], ['d']]).2.1 _).mpr
      ⟨[['a']], ['c'], [['d']], rfl, hbefore, fails_overlappingFiles⟩⟩

/-- Entries make the same metadata whether they stand in one document or in several files, and any
bytes are loaded from a file as from a stream: as the same metadata, or with the same error up to
the name of the source. -/
theorem ofFiles_agrees_with_ofStream (read : Path → Except OsError ByteArray) (origin : Text) :
    (∀ paths entries d t, List.Forall₂ (HoldsEntries read) paths entries →
      WritesEntries entries.flatten d → Spaced d.tokens t →
      ∃ m, (ofFiles read paths).result = .ok m ∧ (ofStream origin (utf8 t)).1 = .ok m) ∧
    ∀ path bytes, read path = .ok bytes →
      (∃ m, (ofFiles read [path]).result = .ok m ∧ (ofStream origin bytes).1 = .ok m) ∨
      ∃ e, (ofFiles read [path]).result = .error e ∧
        (ofStream origin bytes).1 = .error (e.about origin) ∧
        (e.about origin).cause = e.cause := by
  constructor
  · intro paths entries d t hpaths hd ht
    refine ⟨_, ofFiles_of_holdsEntries hpaths, ?_⟩
    rw [ofStream_utf8 (ofJson_of_writesEntries hd ht)]
  · intro path bytes hread
    have hfile : (ofFiles read [path]).result = ofBytes path bytes := by
      rw [ofFiles_singleton, ofFile, hread]
    have hstream : (ofStream origin bytes).1 = (ofBytes path bytes).mapError (·.about origin) :=
      ofBytes_about origin path bytes
    rw [hfile, hstream]
    cases ofBytes path bytes with
    | ok m => exact .inl ⟨m, rfl, rfl⟩
    | error e => exact .inr ⟨e, rfl, rfl, e.cause_about origin⟩

theorem ofFiles_agrees_with_ofStream_overlappingFiles :
    (∃ m, (ofFiles overlappingFiles [['a'], ['b']]).result = .ok m ∧
      (ofStream "<stdin>".toList (utf8 (entriesDocument
        [("A", { name := "old" }), ("B", {}), ("A", { name := "new" }), ("C", {}),
          ("A", { name := "newest" })]).compact)).1 = .ok m) ∧
    ∃ e, (ofFiles overlappingFiles [['c']]).result = .error e ∧
      (ofStream "<stdin>".toList ⟨#[0xff]⟩).1 = .error (e.about "<stdin>".toList) ∧
      (e.about "<stdin>".toList).cause = e.cause := by
  obtain ⟨hentries, hbytes⟩ := ofFiles_agrees_with_ofStream overlappingFiles "<stdin>".toList
  refine ⟨hentries _ _ _ _ holdsEntries_overlappingFiles (writesEntries_entriesDocument _)
    (Spaced.flatten _), ?_⟩
  rcases hbytes ['c'] ⟨#[0xff]⟩ rfl with ⟨m, hm, -⟩ | herror
  · rw [ofFiles_singleton, fails_overlappingFiles.ofFile_eq] at hm
    cases hm
  · exact herror

end Metadata

end AmbientDecls
