import AmbientDecls.Proofs.Pipeline.Stages

/-!
# Expansion of patterns

What the patterns of a command line stand for, told without running through them: the files of each
pattern in order, of which those are left out that are the same as an earlier one
(`expandFrom_result`). Since every path that is found is the path of a file, and a file stands for
itself, the paths that are found stand for themselves (`expandPatterns_self`).
-/

namespace AmbientDecls

lemma Logged.eq_ok {ε α : Type} {r : Logged ε α} {a : α} (hevents : r.events = [])
    (hresult : r.result = .ok a) : r = .ok a := by
  cases r
  cases hevents
  cases hresult
  rfl

namespace Path

variable {seen l : List Path} {p q : Path}

lemma same_comm (p q : Path) : p.same q = q.same p := Bool.beq_comm

lemma same_self (p : Path) : p.same p = true := beq_self_eq_true _

/-- Paths that are added one after another are those of which none was there before. -/
lemma foldl_addNew (seen l : List Path) :
    l.foldl addNew seen = seen ++ (l.filter fun p => ! seen.any (·.same p)).eraseDupsBy same := by
  induction l generalizing seen with
  | nil => exact (List.append_nil seen).symm
  | cons p l ih =>
    rw [List.foldl_cons, ih, addNew]
    by_cases hp : seen.any (·.same p) = true
    · rw [if_pos hp, List.filter_cons_of_neg (by simp [hp])]
    -- Behind a new path, those that are the same as it are left out as well.
    · have hfilter : (l.filter fun q => ! (seen ++ [p]).any (·.same q)) =
          (l.filter fun q => ! seen.any (·.same q)).filter fun q => q.same p = false := by
        rw [List.filter_filter]
        apply List.filter_congr
        intro q _
        simp [List.any_append, same_comm p q, Bool.and_comm]
      rw [if_neg hp, List.filter_cons_of_pos (by simpa using hp), List.eraseDupsBy_cons, hfilter,
        List.append_assoc, List.singleton_append]

lemma foldl_addNew_nil (l : List Path) : l.foldl addNew [] = l.eraseDupsBy same := by
  have hfilter : (l.filter fun p => ! ([] : List Path).any (·.same p)) = l :=
    List.filter_eq_self.mpr fun _ _ => rfl
  rw [foldl_addNew, List.nil_append, hfilter]

lemma prefix_foldl_addNew (seen l : List Path) : seen <+: l.foldl addNew seen := by
  rw [foldl_addNew]
  exact List.prefix_append _ _

lemma mem_addNew (h : q ∈ addNew seen p) : q ∈ seen ∨ q = p := by
  unfold addNew at h
  split at h
  · exact .inl h
  · exact (List.mem_append.mp h).imp_right List.mem_singleton.mp

lemma mem_foldl_addNew (h : q ∈ l.foldl addNew seen) : q ∈ seen ∨ q ∈ l := by
  induction l generalizing seen with
  | nil => exact .inl h
  | cons p l ih =>
    rcases ih h with hq | hq
    · rcases mem_addNew hq with hq | rfl
      · exact .inl hq
      · exact .inr List.mem_cons_self
    · exact .inr (List.mem_cons_of_mem p hq)

/-- One of the paths is the same. -/
def IsSeen (seen : List Path) (p : Path) : Prop := ∃ q ∈ seen, q.same p = true

lemma addNew_of_isSeen (h : IsSeen seen p) : addNew seen p = seen := by
  rw [addNew, if_pos (List.any_eq_true.mpr h)]

lemma addNew_of_not_isSeen (h : ¬IsSeen seen p) : addNew seen p = seen ++ [p] := by
  rw [addNew, if_neg fun hany => h (List.any_eq_true.mp hany)]

lemma isSeen_addNew (seen : List Path) (p : Path) : IsSeen (addNew seen p) p := by
  by_cases h : IsSeen seen p
  · rwa [addNew_of_isSeen h]
  · rw [addNew_of_not_isSeen h]
    exact ⟨p, List.mem_append_right _ List.mem_cons_self, p.same_self⟩

/-- What is seen once stays seen. -/
lemma IsSeen.mono (h : IsSeen seen p) (hl : seen <+: l) : IsSeen l p := by
  obtain ⟨q, hq, hsame⟩ := h
  exact ⟨q, hl.subset hq, hsame⟩

lemma isSeen_foldl_addNew (hp : p ∈ l) (seen : List Path) : IsSeen (l.foldl addNew seen) p := by
  induction l generalizing seen with
  | nil => cases hp
  | cons q l ih =>
    rcases List.mem_cons.mp hp with rfl | hp
    · exact (isSeen_addNew seen p).mono (prefix_foldl_addNew _ l)
    · exact ih hp _

/-- Paths that are seen already are not added. -/
lemma foldl_addNew_of_isSeen (h : ∀ p ∈ l, IsSeen seen p) : l.foldl addNew seen = seen := by
  induction l with
  | nil => rfl
  | cons p l ih =>
    rw [List.forall_mem_cons] at h
    rw [List.foldl_cons, addNew_of_isSeen h.1, ih h.2]

/-- No path stands twice. -/
def Distinct (l : List Path) : Prop := l.Pairwise fun p q => p.same q = false

lemma not_isSeen_of_distinct (h : Distinct (seen ++ p :: l)) : ¬IsSeen seen p := by
  rintro ⟨q, hq, hsame⟩
  have hfalse := (List.pairwise_append.mp h).2.2 q hq p List.mem_cons_self
  rw [hsame] at hfalse
  cases hfalse

lemma Distinct.addNew (h : Distinct seen) (p : Path) : Distinct (addNew seen p) := by
  by_cases hp : IsSeen seen p
  · rwa [addNew_of_isSeen hp]
  · rw [addNew_of_not_isSeen hp]
    refine List.pairwise_append.mpr ⟨h, List.pairwise_singleton _ _, ?_⟩
    intro q hq r hr
    rw [List.mem_singleton.mp hr]
    exact eq_false_of_ne_true fun hsame => hp ⟨q, hq, hsame⟩

lemma distinct_foldl_addNew (h : Distinct seen) (l : List Path) :
    Distinct (l.foldl addNew seen) := by
  induction l generalizing seen with
  | nil => exact h
  | cons p l ih => exact ih (h.addNew p)

/-- Distinct paths are all added. -/
lemma foldl_addNew_of_distinct (h : Distinct (seen ++ l)) : l.foldl addNew seen = seen ++ l := by
  induction l generalizing seen with
  | nil => exact (List.append_nil seen).symm
  | cons p l ih =>
    have hp := addNew_of_not_isSeen (not_isSeen_of_distinct h)
    rw [List.append_cons] at h
    rw [List.foldl_cons, hp, ih h, ← List.append_cons]

end Path

namespace FileSystem

variable {fs : FileSystem} {p : Text} {ps : List Text}

/-- The text is the path of a file, or else a pattern. -/
def accepts (fs : FileSystem) (p : Text) : Bool := fs.isFile p || (Pattern.parse p).isOk

/-- The file with the path if there is one, and otherwise the files among the matches. -/
def matched (fs : FileSystem) (p : Text) : List Path :=
  if fs.isFile p then [p]
  else match Pattern.parse p with
    | .ok pattern => (pattern.found fs).filter fs.isFile
    | .error _ => []

lemma matched_of_isFile (h : fs.isFile p = true) : fs.matched p = [p] := if_pos h

lemma accepts_of_isFile (h : fs.isFile p = true) : fs.accepts p = true := by
  rw [accepts, h, Bool.true_or]

lemma filesFor_of_accepts (h : fs.accepts p = true) : fs.filesFor p = .ok (fs.matched p) := by
  unfold filesFor matched
  by_cases hfile : fs.isFile p = true
  · rw [if_pos hfile, if_pos hfile]
  · rw [if_neg hfile, if_neg hfile]
    cases hparse : Pattern.parse p with
    | ok pattern => rfl
    | error fault => simp [accepts, hfile, hparse, Except.isOk, Except.toBool] at h

lemma filesFor_of_not_accepts (h : fs.accepts p = false) :
    ∃ fault, Pattern.parse p = .error fault ∧ fs.filesFor p = .error fault := by
  obtain ⟨hfile, hparse⟩ := Bool.or_eq_false_iff.mp h
  cases hp : Pattern.parse p with
  | ok pattern => simp [hp, Except.isOk, Except.toBool] at hparse
  | error fault =>
    refine ⟨fault, rfl, ?_⟩
    rw [filesFor, if_neg (by simp [hfile]), hp]
    rfl

lemma isFile_of_mem_matched {q : Path} (h : q ∈ fs.matched p) : fs.isFile q = true := by
  unfold matched at h
  split at h
  · next hfile => exact List.mem_singleton.mp h ▸ hfile
  · split at h
    · exact (List.mem_filter.mp h).2
    · cases h

/-- The files of the patterns in order, without those that are the same as an earlier one. -/
def filesOf (fs : FileSystem) (ps : List Text) : List Path :=
  (ps.flatMap fs.matched).eraseDupsBy Path.same

lemma foldl_addNew_eq_filesOf (fs : FileSystem) (ps : List Text) :
    (ps.flatMap fs.matched).foldl Path.addNew [] = fs.filesOf ps := Path.foldl_addNew_nil _

lemma filesOf_append (fs : FileSystem) (ps qs : List Text) :
    fs.filesOf (ps ++ qs) = (qs.flatMap fs.matched).foldl Path.addNew (fs.filesOf ps) := by
  rw [← foldl_addNew_eq_filesOf, ← foldl_addNew_eq_filesOf, List.flatMap_append, List.foldl_append]

/-- The files of a pattern that was there before are all seen. -/
lemma filesOf_append_singleton (hp : p ∈ ps) : fs.filesOf (ps ++ [p]) = fs.filesOf ps := by
  rw [filesOf_append, List.flatMap_singleton]
  apply Path.foldl_addNew_of_isSeen
  intro q hq
  rw [← foldl_addNew_eq_filesOf]
  exact Path.isSeen_foldl_addNew (List.mem_flatMap.mpr ⟨p, hp, hq⟩) []

lemma isFile_of_mem_filesOf {q : Path} (h : q ∈ fs.filesOf ps) : fs.isFile q = true := by
  rw [← foldl_addNew_eq_filesOf] at h
  obtain ⟨p, -, hqp⟩ := List.mem_flatMap.mp ((Path.mem_foldl_addNew h).resolve_left nofun)
  exact isFile_of_mem_matched hqp

lemma distinct_filesOf (fs : FileSystem) (ps : List Text) : Path.Distinct (fs.filesOf ps) := by
  rw [← foldl_addNew_eq_filesOf]
  exact Path.distinct_foldl_addNew .nil _

/-- Files stand for themselves, whatever their names look like. -/
lemma filesOf_filesOf (fs : FileSystem) (ps : List Text) :
    fs.filesOf (fs.filesOf ps) = fs.filesOf ps := by
  have hmatched : (fs.filesOf ps).flatMap fs.matched = fs.filesOf ps := by
    rw [List.flatMap_congr fun q hq => matched_of_isFile (isFile_of_mem_filesOf hq),
      List.flatMap_singleton']
  rw [← foldl_addNew_eq_filesOf, hmatched]
  exact Path.foldl_addNew_of_distinct (distinct_filesOf fs ps)

end FileSystem

/-! ### Runs through patterns -/

section Expansion

variable {fs : FileSystem} {ps qs : List Text} {paths paths' : List Path}

lemma expandFrom_result (h : ∀ p ∈ ps, fs.accepts p = true) :
    (expandFrom fs [] ps).result = .ok (fs.filesOf ps) := by
  have hmatched : List.Forall₂ (fun p files => fs.filesFor p = .ok files) ps (ps.map fs.matched) :=
    List.forall₂_map_right_iff.mpr <| List.forall₂_same.mpr fun p hp =>
      FileSystem.filesFor_of_accepts (h p hp)
  rw [expandFrom_of_filesFor hmatched, ← FileSystem.foldl_addNew_eq_filesOf]
  rfl

/-- Warnings are given of the patterns without files before the first that is no pattern. -/
lemma expandFrom_events (seen : List Path) (ps : List Text) :
    (expandFrom fs seen ps).events =
      ((ps.takeWhile fs.accepts).filter fun p => (fs.matched p).isEmpty).map .noFilesMatched := by
  induction ps generalizing seen with
  | nil => rfl
  | cons p ps ih =>
    by_cases hp : fs.accepts p = true
    · rw [List.takeWhile_cons_of_pos hp]
      simp only [expandFrom, FileSystem.filesFor_of_accepts hp, Logged.after, ih]
      by_cases hempty : (fs.matched p).isEmpty = true
      · rw [if_pos hempty, List.filter_cons_of_pos (by exact hempty)]
        rfl
      · rw [if_neg hempty, List.filter_cons_of_neg (by exact hempty)]
        rfl
    · obtain ⟨fault, -, hfault⟩ := FileSystem.filesFor_of_not_accepts (eq_false_of_ne_true hp)
      rw [List.takeWhile_cons_of_neg hp]
      simp only [expandFrom, hfault]
      rfl

lemma expandPatterns_events (fs : FileSystem) (ps : List Text) :
    (expandPatterns fs ps).events =
      ((ps.takeWhile fs.accepts).filter fun p => (fs.matched p).isEmpty).map .noFilesMatched := by
  rw [← expandFrom_events []]
  unfold expandPatterns Logged.bind
  split
  · rfl
  · simp only [Logged.after]
    split
    · exact List.append_nil _
    · exact List.append_nil _

lemma expandPatterns_result (h : ∀ p ∈ ps, fs.accepts p = true) :
    (expandPatterns fs ps).result =
      if fs.filesOf ps = [] then .error (.noInputFiles ps) else .ok (fs.filesOf ps) := by
  rw [expandPatterns, Logged.result_bind_of_ok (expandFrom_result h)]
  simp only [List.isEmpty_iff]
  split
  · rfl
  · rfl

/-- The first that is neither a file nor a pattern is the error. -/
lemma expandPatterns_of_find? {p : Text} (h : ps.find? (fun p => ! fs.accepts p) = some p) :
    ∃ fault, Pattern.parse p = .error fault ∧
      (expandPatterns fs ps).result = .error (.badPattern p fault) := by
  obtain ⟨hp, before, after, hps, hbefore⟩ := List.find?_eq_some_iff_append.mp h
  obtain ⟨fault, hparse, hfault⟩ := FileSystem.filesFor_of_not_accepts (by simpa using hp)
  have hfiles : ∀ q ∈ before, ∃ files, fs.filesFor q = .ok files := fun q hq =>
    ⟨_, FileSystem.filesFor_of_accepts (by simpa using hbefore q hq)⟩
  have hfails := expandFrom_of_failsAt ⟨before, after, hps, hfiles, hfault⟩ []
  exact ⟨fault, hparse, Logged.result_bind_of_error hfails _⟩

lemma forall_accepts_of_find? (h : ps.find? (fun p => ! fs.accepts p) = none) :
    ∀ p ∈ ps, fs.accepts p = true := by
  intro p hp
  simpa using List.find?_eq_none.mp h p hp

lemma filesOf_of_expandPatterns (h : (expandPatterns fs ps).result = .ok paths) :
    paths = fs.filesOf ps ∧ paths ≠ [] := by
  cases hfind : ps.find? (fun p => ! fs.accepts p) with
  | some p =>
    obtain ⟨fault, -, hfault⟩ := expandPatterns_of_find? hfind
    cases h.symm.trans hfault
  | none =>
    rw [expandPatterns_result (forall_accepts_of_find? hfind)] at h
    split at h
    · cases h
    · next hne =>
      cases h
      exact ⟨rfl, hne⟩

/-- More patterns only add files at the end. -/
lemma expandPatterns_append (h : (expandPatterns fs ps).result = .ok paths)
    (h' : (expandPatterns fs (ps ++ qs)).result = .ok paths') : paths <+: paths' := by
  obtain ⟨rfl, -⟩ := filesOf_of_expandPatterns h
  obtain ⟨rfl, -⟩ := filesOf_of_expandPatterns h'
  rw [FileSystem.filesOf_append]
  exact Path.prefix_foldl_addNew _ _

/-- The paths that are found stand for themselves, without a warning. -/
lemma expandPatterns_self (h : (expandPatterns fs ps).result = .ok paths) :
    expandPatterns fs paths = .ok paths := by
  obtain ⟨rfl, hne⟩ := filesOf_of_expandPatterns h
  -- Each of them is the path of a file, which is asked before it is read as a pattern.
  have hfile : ∀ q ∈ fs.filesOf ps, fs.isFile q = true := fun q hq =>
    FileSystem.isFile_of_mem_filesOf hq
  have hresult := expandPatterns_result fun q hq => FileSystem.accepts_of_isFile (hfile q hq)
  rw [FileSystem.filesOf_filesOf, if_neg hne] at hresult
  have hmatched : ∀ q ∈ (fs.filesOf ps).takeWhile fs.accepts, ¬(fs.matched q).isEmpty = true := by
    intro q hq
    rw [FileSystem.matched_of_isFile (hfile q ((List.takeWhile_prefix _).subset hq))]
    exact Bool.false_ne_true
  have hevents := expandPatterns_events fs (fs.filesOf ps)
  rw [List.filter_eq_nil_iff.mpr hmatched] at hevents
  exact Logged.eq_ok hevents hresult

/-- The error, if the patterns are these. -/
def RunError.ofPatterns (ps : List Text) : RunError → RunError
  | noInputFiles _ => noInputFiles ps
  | e => e

/-- To give a pattern again makes no difference but to the patterns that an error lists. -/
lemma expandPatterns_repeat {p : Text} (hp : p ∈ ps) :
    (expandPatterns fs (ps ++ [p])).result =
      (expandPatterns fs ps).result.mapError (RunError.ofPatterns (ps ++ [p])) := by
  cases hfind : ps.find? (fun p => ! fs.accepts p) with
  | some q =>
    have hfind' : (ps ++ [p]).find? (fun p => ! fs.accepts p) = some q := by
      rw [List.find?_append, hfind]
      rfl
    obtain ⟨fault, hparse, hfault⟩ := expandPatterns_of_find? hfind
    obtain ⟨fault', hparse', hfault'⟩ := expandPatterns_of_find? hfind'
    cases hparse.symm.trans hparse'
    rw [hfault, hfault']
    rfl
  | none =>
    have haccepts := forall_accepts_of_find? hfind
    have haccepts' : ∀ q ∈ ps ++ [p], fs.accepts q = true :=
      List.forall_mem_append.mpr ⟨haccepts, List.forall_mem_singleton.mpr (haccepts p hp)⟩
    rw [expandPatterns_result haccepts, expandPatterns_result haccepts',
      FileSystem.filesOf_append_singleton hp]
    split
    · rfl
    · rfl

end Expansion

/-- Patterns are expanded to their files in order, each of them once. The first that is neither a
file nor a pattern is an error, and those without a file are warned of. So a pattern may be given
again, more patterns only add files at the end, and the files stand for themselves. -/
theorem expandPatterns_collects (fs : FileSystem) (ps : List Text) :
    (∀ p, ps.find? (fun p => ! fs.accepts p) = some p → ∃ fault, Pattern.parse p = .error fault ∧
      (expandPatterns fs ps).result = .error (.badPattern p fault)) ∧
    ((∀ p ∈ ps, fs.accepts p = true) → (expandPatterns fs ps).result =
      if fs.filesOf ps = [] then .error (.noInputFiles ps) else .ok (fs.filesOf ps)) ∧
    ((expandPatterns fs ps).events =
      ((ps.takeWhile fs.accepts).filter fun p => (fs.matched p).isEmpty).map .noFilesMatched) ∧
    (∀ p ∈ ps, (expandPatterns fs (ps ++ [p])).result =
      (expandPatterns fs ps).result.mapError (RunError.ofPatterns (ps ++ [p]))) ∧
    (∀ qs paths paths', (expandPatterns fs ps).result = .ok paths →
      (expandPatterns fs (ps ++ qs)).result = .ok paths' → paths <+: paths') ∧
    ∀ paths, (expandPatterns fs ps).result = .ok paths → expandPatterns fs paths = .ok paths :=
  ⟨fun _ => expandPatterns_of_find?, expandPatterns_result, expandPatterns_events fs ps,
    fun _ => expandPatterns_repeat, fun _ _ _ => expandPatterns_append,
    fun _ => expandPatterns_self⟩

/-- Two files, of which one has an asterisk in its name, and a directory. -/
def starredFiles : FileSystem where
  nodes := [([['a', '*']], .file .empty), ([['a', 'b']], .file .empty), ([['d']], .directory)]

/-- The file with the asterisk, a pattern without files, and one for everything. -/
def starredPatterns : List Text := [['a', '*'], ['z', '*'], ['*']]

/-- A directory, and another path of a file. -/
def morePatterns : List Text := starredPatterns ++ [['d'], ['d', '/', '.', '.', '/', 'a', 'b']]

lemma entries_starredFiles : Pattern.entries starredFiles false ['.'] =
    [(['a', '*'], ['a', '*']), (['a', 'b'], ['a', 'b']), (['d'], ['d'])] := by
  have hfind : starredFiles.find ['.'] = .ok ([], .directory) := rfl
  -- The names are in order already.
  have hbelow : starredFiles.below [] = [[['a', '*']], [['a', 'b']], [['d']]] := by
    unfold FileSystem.below
    apply List.mergeSort_of_pairwise
    decide
  simp only [Pattern.entries, hfind, hbelow]
  decide

lemma matched_everything : starredFiles.matched ['*'] = [['a', '*'], ['a', 'b']] := by
  have hparse : Pattern.parse ['*'] = .ok ⟨false, [[.anyRun]], false⟩ := by decide +kernel
  rw [FileSystem.matched, if_neg (by decide), hparse]
  simp only [Pattern.found, Pattern.walk, Pattern.literal?, Bool.false_eq_true, if_false,
    entries_starredFiles, List.flatMap_cons, List.flatMap_nil, Pattern.matchesName,
    Pattern.matchesName.matchesRun]
  decide +kernel

lemma matched_nothing : starredFiles.matched ['z', '*'] = [] := by
  have hparse : Pattern.parse ['z', '*'] = .ok ⟨false, [[.char 'z', .anyRun]], false⟩ := by
    decide +kernel
  rw [FileSystem.matched, if_neg (by decide), hparse]
  simp only [Pattern.found, Pattern.walk, Pattern.literal?, Option.map, Bool.false_eq_true,
    if_false, entries_starredFiles, List.flatMap_cons, List.flatMap_nil, Pattern.matchesName]
  decide +kernel

lemma filesOf_starredPatterns :
    starredFiles.filesOf starredPatterns = [['a', '*'], ['a', 'b']] := by
  simp only [FileSystem.filesOf, starredPatterns, List.flatMap_cons, matched_everything,
    matched_nothing]
  decide

lemma filesOf_morePatterns : starredFiles.filesOf morePatterns =
    [['a', '*'], ['a', 'b'], ['d', '/', '.', '.', '/', 'a', 'b']] := by
  rw [morePatterns, FileSystem.filesOf_append, filesOf_starredPatterns]
  decide +kernel

theorem expandPatterns_collects_starredPatterns :
    (expandPatterns starredFiles starredPatterns).result = .ok [['a', '*'], ['a', 'b']] ∧
    (expandPatterns starredFiles starredPatterns).events = [.noFilesMatched ['z', '*']] ∧
    (expandPatterns starredFiles (starredPatterns ++ [['*']])).result =
      .ok [['a', '*'], ['a', 'b']] ∧
    (∃ paths, (expandPatterns starredFiles morePatterns).result = .ok paths ∧
      [['a', '*'], ['a', 'b']] <+: paths) ∧
    expandPatterns starredFiles [['a', '*'], ['a', 'b']] = .ok [['a', '*'], ['a', 'b']] ∧
    (expandPatterns starredFiles [['z', '*'], ['['], ['*', '*', '*']]).result =
      .error (.badPattern ['['] ⟨0, .brokenSet⟩) := by
  obtain ⟨-, hall, hevents, hrepeat, hmore, hself⟩ :=
    expandPatterns_collects starredFiles starredPatterns
  have hresult := hall (List.all_eq_true.mp (by decide +kernel))
  rw [filesOf_starredPatterns, if_neg (List.cons_ne_nil _ _)] at hresult
  have hlater := (expandPatterns_collects starredFiles morePatterns).2.1
    (List.all_eq_true.mp (by decide +kernel))
  rw [filesOf_morePatterns, if_neg (List.cons_ne_nil _ _)] at hlater
  refine ⟨hresult, ?_, ?_, ⟨_, hlater, hmore _ _ _ hresult hlater⟩, hself _ hresult, ?_⟩
  · have haccepts : starredPatterns.takeWhile starredFiles.accepts = starredPatterns := by
      decide +kernel
    rw [hevents, haccepts]
    simp only [starredPatterns, List.filter_cons, matched_everything, matched_nothing]
    rfl
  · rw [hrepeat _ (.tail _ <| .tail _ <| .head _), hresult]
    rfl
  · obtain ⟨fault, hparse, hfault⟩ := (expandPatterns_collects starredFiles
      [['z', '*'], ['['], ['*', '*', '*']]).1 ['['] (by decide +kernel)
    have hbroken : Pattern.parse ['['] = .error ⟨0, .brokenSet⟩ := by decide +kernel
    cases hparse.symm.trans hbroken
    exact hfault

end AmbientDecls
