import AmbientDecls.Files.System
import Mathlib.Data.List.Basic

/-!
# Writing to a file system

A path is followed from directory to directory, and a file is never written in place of a directory.
So what is written changes nothing on the way to it: the path leads to the same place before and
after, and there it finds what was written (`wrote_write`).
-/

namespace AmbientDecls.FileSystem

variable {fs after : FileSystem} {place : Place} {p : Path} {content : ByteArray}

lemma node?_nil (fs : FileSystem) : fs.node? [] = some .directory := rfl

lemma node?_of_ne_nil (fs : FileSystem) (h : place ≠ []) :
    fs.node? place = fs.nodes.lookup place := by
  rw [node?, if_neg]
  simpa using h

lemma node?_put_self (fs : FileSystem) (h : place ≠ []) (node : Node) :
    (fs.put place node).node? place = some node := by
  have hnone : (fs.nodes.filter (·.1 ≠ place)).lookup place = none := by
    rw [List.lookup_eq_none_iff]
    intro e he
    have hne : e.1 ≠ place := by simpa using (List.mem_filter.mp he).2
    simpa using hne.symm
  rw [node?_of_ne_nil _ h, put, List.lookup_append, hnone, List.lookup_cons_self]
  rfl

lemma lookup_filter_of_ne {q : Place} (h : q ≠ place) (nodes : List (Place × Node)) :
    (nodes.filter (·.1 ≠ place)).lookup q = nodes.lookup q := by
  induction nodes with
  | nil => rfl
  | cons e nodes ih =>
    obtain ⟨r, node⟩ := e
    by_cases hr : r = place
    · subst hr
      have hne : (q == r) = false := beq_eq_false_iff_ne.mpr h
      rw [List.filter_cons_of_neg (by simp), ih, List.lookup_cons, hne]
    · rw [List.filter_cons_of_pos (by simpa using hr), List.lookup_cons, List.lookup_cons, ih]

lemma node?_put_of_ne (fs : FileSystem) (node : Node) {q : Place} (h : q ≠ place) :
    (fs.put place node).node? q = fs.node? q := by
  by_cases hq : q = []
  · rw [hq, node?_nil, node?_nil]
  · have hne : (q == place) = false := beq_eq_false_iff_ne.mpr h
    rw [node?_of_ne_nil _ hq, node?_of_ne_nil _ hq, put, List.lookup_append, lookup_filter_of_ne h,
      List.lookup_cons, hne, List.lookup_nil, Option.or_none]

/-- A path may go on only from a directory. -/
lemma isDirectory_of_step {piece : Text} {next : Place} (h : fs.step place piece = .ok next) :
    fs.node? place = some .directory := by
  rw [step] at h
  cases hnode : fs.node? place with
  | none =>
    rw [hnode] at h
    cases h
  | some node =>
    cases node with
    | directory => rfl
    | file _ | refused _ | device =>
      rw [hnode] at h
      cases h

/-- A way through a file system is there in another one with the same directories. -/
lemma follow_eq_of_directories (hstart : after.workingDirectory = fs.workingDirectory)
    (hdirs : ∀ q, fs.node? q = some .directory → after.node? q = some .directory)
    (h : fs.follow p = .ok place) : after.follow p = .ok place := by
  have hsteps : ∀ (pieces : List Text) (q : Place),
      pieces.foldlM fs.step q = .ok place → pieces.foldlM after.step q = .ok place := by
    -- That a step was taken shows that it started from a directory.
    intro pieces
    induction pieces with
    | nil => exact fun _ h => h
    | cons piece pieces ih =>
      intro q hq
      rw [List.foldlM_cons] at hq ⊢
      cases hstep : fs.step q piece with
      | error e =>
        rw [hstep] at hq
        cases hq
      | ok next =>
        have hdir := isDirectory_of_step hstep
        have hsame : after.step q piece = .ok next := by
          rw [← hstep, step, step, hdir, hdirs q hdir]
        rw [hstep] at hq
        rw [hsame]
        exact ih next hq
  have hfrom : after.start p = fs.start p := by
    rw [start, start, hstart]
  rw [follow, hfrom]
  exact hsteps p.pieces (fs.start p) h

/-! ### Writing -/

/-- The only difference is what the place holds. -/
structure Holds (fs after : FileSystem) (place : Place) (node : Node) : Prop where
  node?_eq : after.node? place = some node
  node?_of_ne : ∀ q, q ≠ place → after.node? q = fs.node? q
  workingDirectory_eq : after.workingDirectory = fs.workingDirectory

lemma holds_put (hdir : fs.node? place ≠ some .directory) (node : Node) :
    fs.Holds (fs.put place node) place node where
  node?_eq := by
    apply node?_put_self
    rintro rfl
    exact hdir fs.node?_nil
  node?_of_ne _ hq := node?_put_of_ne fs _ hq
  workingDirectory_eq := rfl

lemma Holds.find_eq {node : Node} (h : fs.Holds after place node) (hp : p ≠ [])
    (hfollow : fs.follow p = .ok place) (hdir : fs.node? place ≠ some .directory) :
    after.find p = .ok (place, node) := by
  have hdirs : ∀ q, fs.node? q = some .directory → after.node? q = some .directory := by
    intro q hq
    rw [h.node?_of_ne q, hq]
    rintro rfl
    exact hdir hq
  have hsame := follow_eq_of_directories h.workingDirectory_eq hdirs hfollow
  have hempty : ¬p.isEmpty = true := by simpa using hp
  rw [find, if_neg hempty, hsame]
  simp only [h.node?_eq]

lemma withoutSlashes_isPrefix (p : Path) : withoutSlashes p <+: p := by
  rw [← List.reverse_suffix, withoutSlashes, List.reverse_reverse]
  exact List.dropWhile_suffix _

/-- The path leads to the place, where there is no directory, so that it can be written. -/
structure Opens (fs : FileSystem) (p : Path) (place : Place) : Prop where
  ne_nil : p ≠ []
  follow_eq : fs.follow p = .ok place
  not_directory : fs.node? place ≠ some .directory

lemma opens_of_openAt (h : fs.openAt p = .ok place) : fs.Opens p place := by
  rw [openAt] at h
  split at h
  · cases h
  · next hempty =>
    split at h
    · cases h
    · next hfollow =>
      split at h
      · cases h
      · next hlength =>
        -- A path that is written to has no slash at its end, so it is followed as it is.
        have hp : withoutSlashes p = p :=
          (withoutSlashes_isPrefix p).eq_of_length_le (by omega)
        rw [hp] at hfollow
        split at h
        · cases h
        · cases h
        · next hdir _ =>
          cases h
          exact ⟨by simpa using hempty, hfollow, hdir⟩

/-- The content finds room at the place. -/
def HasRoom (fs : FileSystem) (place : Place) (content : ByteArray) : Prop :=
  ∀ room e, fs.obstacle place = some (.full room e) → content.size ≤ room

lemma fit_of_hasRoom (h : fs.HasRoom place content) : fs.fit place content = (content, none) := by
  unfold fit
  split
  · next hobstacle => rw [if_pos (h _ _ hobstacle)]
  · rfl

lemma fit_of_full {room : Nat} {e : OsError} (h : fs.obstacle place = some (.full room e))
    (hsize : room < content.size) : fs.fit place content = (content.extract 0 room, some e) := by
  rw [fit, h]
  exact if_neg (by omega)

lemma hasRoom_or_full (fs : FileSystem) (place : Place) (content : ByteArray) :
    fs.HasRoom place content ∨
      ∃ room e, fs.obstacle place = some (.full room e) ∧ room < content.size := by
  by_cases h : fs.HasRoom place content
  · exact .inl h
  · simp only [HasRoom, not_forall, Nat.not_le] at h
    obtain ⟨room, e, hobstacle, hsize⟩ := h
    exact .inr ⟨room, e, hobstacle, hsize⟩

/-- What there is after a write, by what the path leads to. A file holds the content, or what found
room of it. A device is handed it and holds nothing that could be read back. All the rest stays. -/
inductive Wrote (fs : FileSystem) (p : Path) (content : ByteArray) : Written → Prop
  | unopened {e : OsError} (hopen : fs.openAt p = .error e) :
      Wrote fs p content ⟨fs, some e, false⟩
  | file {after : FileSystem} {place : Place} (hopen : fs.openAt p = .ok place)
      (hnode : ∀ d before, fs.node? place ≠ some (.device d before))
      (hroom : fs.HasRoom place content) (hholds : fs.Holds after place (.file content))
      (hread : after.read p = .ok content) : Wrote fs p content ⟨after, none, false⟩
  | cut {after : FileSystem} {place : Place} {room : Nat} {e : OsError}
      (hopen : fs.openAt p = .ok place)
      (hnode : ∀ d before, fs.node? place ≠ some (.device d before))
      (hobstacle : fs.obstacle place = some (.full room e)) (hsize : room < content.size)
      (hholds : fs.Holds after place (.file (content.extract 0 room))) :
      Wrote fs p content ⟨after, some e, false⟩
  | stdout {after : FileSystem} {place : Place} {before : ByteArray}
      (hopen : fs.openAt p = .ok place) (hnode : fs.node? place = some (.device .stdout before))
      (hholds : fs.Holds after place (.device .stdout (before ++ content))) :
      Wrote fs p content ⟨after, none, true⟩
  | sink {after : FileSystem} {place : Place} {before : ByteArray}
      (hopen : fs.openAt p = .ok place) (hnode : fs.node? place = some (.device .sink before))
      (hroom : fs.HasRoom place content)
      (hholds : fs.Holds after place (.device .sink (before ++ content))) :
      Wrote fs p content ⟨after, none, false⟩
  | cutSink {after : FileSystem} {place : Place} {before : ByteArray} {room : Nat} {e : OsError}
      (hopen : fs.openAt p = .ok place) (hnode : fs.node? place = some (.device .sink before))
      (hobstacle : fs.obstacle place = some (.full room e)) (hsize : room < content.size)
      (hholds : fs.Holds after place (.device .sink (before ++ content.extract 0 room))) :
      Wrote fs p content ⟨after, some e, false⟩

theorem wrote_write (fs : FileSystem) (p : Path) (content : ByteArray) :
    fs.Wrote p content (fs.write p content) := by
  cases hopen : fs.openAt p with
  | error e =>
    have hwrite : fs.write p content = ⟨fs, some e, false⟩ := by rw [write, hopen]
    rw [hwrite]
    exact .unopened hopen
  | ok place =>
    have h := opens_of_openAt hopen
    have hfit := fs.hasRoom_or_full place content
    rw [write, hopen]
    dsimp only
    split
    · next before hnode => exact .stdout hopen hnode (holds_put h.not_directory _)
    · next before hnode =>
      rcases hfit with hroom | ⟨room, e, hobstacle, hsize⟩
      · rw [fit_of_hasRoom hroom]
        exact .sink hopen hnode hroom (holds_put h.not_directory _)
      · rw [fit_of_full hobstacle hsize]
        exact .cutSink hopen hnode hobstacle hsize (holds_put h.not_directory _)
    · next hstdout hsink =>
      have hnode : ∀ d before, fs.node? place ≠ some (.device d before) := by
        rintro (_ | _) before hdevice
        · exact hsink before hdevice
        · exact hstdout before hdevice
      rcases hfit with hroom | ⟨room, e, hobstacle, hsize⟩
      · rw [fit_of_hasRoom hroom]
        have hholds := holds_put h.not_directory (.file content)
        have hread : (fs.put place (.file content)).read p = .ok content := by
          rw [read, hholds.find_eq h.ne_nil h.follow_eq h.not_directory]
        exact .file hopen hnode hroom hholds hread
      · rw [fit_of_full hobstacle hsize]
        exact .cut hopen hnode hobstacle hsize (holds_put h.not_directory _)

end AmbientDecls.FileSystem
