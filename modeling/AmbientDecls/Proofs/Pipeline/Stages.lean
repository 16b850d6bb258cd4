import AmbientDecls.Pipeline.Run
import AmbientDecls.Proofs.Metadata.Merge

/-!
# Stages of a run

What each stage of a run comes to, told without running it: the patterns are expanded, the files
are loaded in order, the command of the formatter is read, and the document is formatted. A stage
has one value or one error, and an error of a stage is there only where the stages before it have
a value (`document_yields`).
-/

namespace AmbientDecls

namespace Logged

variable {ε ε' α β : Type} {r : Logged ε α} {P : α → Prop} {Q : ε → Prop}

lemma result_bind_of_ok {a : α} (h : r.result = .ok a) (f : α → Logged ε β) :
    (r.bind f).result = (f a).result := by
  rw [bind, h]
  rfl

lemma result_bind_of_error {e : ε} (h : r.result = .error e) (f : α → Logged ε β) :
    (r.bind f).result = .error e := by
  rw [bind, h]

/-- One property tells the value of the result, the other one its error. -/
structure Yields (r : Logged ε α) (P : α → Prop) (Q : ε → Prop) : Prop where
  ok_iff : ∀ a, r.result = .ok a ↔ P a
  error_iff : ∀ e, r.result = .error e ↔ Q e

/-- It is enough that there is a value or an error, and that each is the result. -/
lemma Yields.of_total (hok : ∀ a, P a → r.result = .ok a) (herror : ∀ e, Q e → r.result = .error e)
    (htotal : (∃ a, P a) ∨ ∃ e, Q e) : r.Yields P Q where
  ok_iff a := by
    refine ⟨fun h => ?_, hok a⟩
    rcases htotal with ⟨b, hb⟩ | ⟨e, he⟩
    · cases h.symm.trans (hok b hb)
      exact hb
    · cases h.symm.trans (herror e he)
  error_iff e := by
    refine ⟨fun h => ?_, herror e⟩
    rcases htotal with ⟨b, hb⟩ | ⟨d, hd⟩
    · cases h.symm.trans (hok b hb)
    · cases h.symm.trans (herror d hd)
      exact hd

lemma Yields.congr {P' : α → Prop} {Q' : ε → Prop} (h : r.Yields P Q) (hP : ∀ a, P a ↔ P' a)
    (hQ : ∀ e, Q e ↔ Q' e) : r.Yields P' Q' :=
  ⟨fun a => (h.ok_iff a).trans (hP a), fun e => (h.error_iff e).trans (hQ e)⟩

lemma Yields.after (h : r.Yields P Q) (events : List Event) : (r.after events).Yields P Q :=
  ⟨h.ok_iff, h.error_iff⟩

lemma Yields.total (h : r.Yields P Q) : (∃ a, P a) ∨ ∃ e, Q e := by
  cases hr : r.result with
  | ok a => exact .inl ⟨a, (h.ok_iff a).mp hr⟩
  | error e => exact .inr ⟨e, (h.error_iff e).mp hr⟩

/-- What goes on with the value has its values, and the errors of both. -/
lemma Yields.bind {f : α → Logged ε β} {P' : α → β → Prop} {Q' : α → ε → Prop} (h : r.Yields P Q)
    (hf : ∀ a, (f a).Yields (P' a) (Q' a)) :
    (r.bind f).Yields (fun b => ∃ a, P a ∧ P' a b) (fun e => Q e ∨ ∃ a, P a ∧ Q' a e) := by
  apply of_total
  · rintro b ⟨a, ha, hb⟩
    rw [result_bind_of_ok ((h.ok_iff a).mpr ha), (hf a).ok_iff]
    exact hb
  · rintro e (he | ⟨a, ha, he⟩)
    · exact result_bind_of_error ((h.error_iff e).mpr he) f
    · rw [result_bind_of_ok ((h.ok_iff a).mpr ha), (hf a).error_iff]
      exact he
  · rcases h.total with ⟨a, ha⟩ | ⟨e, he⟩
    · rcases (hf a).total with ⟨b, hb⟩ | ⟨e, he⟩
      · exact .inl ⟨b, a, ha, hb⟩
      · exact .inr ⟨e, .inr ⟨a, ha, he⟩⟩
    · exact .inr ⟨e, .inl he⟩

lemma Yields.mapError (h : r.Yields P Q) (f : ε → ε') :
    (r.mapError f).Yields P (fun e => ∃ d, Q d ∧ e = f d) := by
  have hresult : (r.mapError f).result = r.result.mapError f := rfl
  apply of_total
  · intro a ha
    rw [hresult, (h.ok_iff a).mpr ha]
    rfl
  · rintro _ ⟨d, hd, rfl⟩
    rw [hresult, (h.error_iff d).mpr hd]
    rfl
  · rcases h.total with ha | ⟨d, hd⟩
    · exact .inl ha
    · exact .inr ⟨_, d, hd, rfl⟩

/-- There is one value and no error, or one error and no value. -/
lemma Yields.existsUnique (h : r.Yields P Q) :
    (∃! a, P a) ∧ (∀ e, ¬Q e) ∨ (∃! e, Q e) ∧ ∀ a, ¬P a := by
  simp only [← h.ok_iff, ← h.error_iff]
  cases r.result with
  | ok a =>
    refine .inl ⟨⟨a, rfl, fun b hb => ?_⟩, fun e he => ?_⟩
    · cases hb
      rfl
    · cases he
  | error e =>
    refine .inr ⟨⟨e, rfl, fun d hd => ?_⟩, fun a ha => ?_⟩
    · cases hd
      rfl
    · cases ha

end Logged

/-! ### Expanding patterns -/

/-- The paths are the files that the patterns stand for, in order and each once. -/
def FileSystem.Expands (fs : FileSystem) (patterns : List Text) (paths : List Path) : Prop :=
  ∃ found, List.Forall₂ (fun pattern files => fs.filesFor pattern = .ok files) patterns found ∧
    paths = found.flatten.foldl Path.addNew []

/-- The first pattern that is no pattern. -/
def FileSystem.FailsAt (fs : FileSystem) (patterns : List Text) (pattern : Text)
    (fault : Pattern.Fault) : Prop :=
  ∃ before after, patterns = before ++ pattern :: after ∧
    (∀ p ∈ before, ∃ files, fs.filesFor p = .ok files) ∧ fs.filesFor pattern = .error fault

lemma expandFrom_of_filesFor {fs : FileSystem} {patterns : List Text} {found : List (List Path)}
    (h : List.Forall₂ (fun pattern files => fs.filesFor pattern = .ok files) patterns found)
    (paths : List Path) :
    (expandFrom fs paths patterns).result = .ok (found.flatten.foldl Path.addNew paths) := by
  induction h generalizing paths with
  | nil => rfl
  | @cons pattern files patterns found hpattern _ ih =>
    rw [List.flatten_cons, List.foldl_append, ← ih]
    simp only [expandFrom, hpattern]
    rfl

lemma expandFrom_of_failsAt {fs : FileSystem} {patterns : List Text} {pattern : Text}
    {fault : Pattern.Fault} (h : fs.FailsAt patterns pattern fault) (paths : List Path) :
    (expandFrom fs paths patterns).result = .error (.badPattern pattern fault) := by
  obtain ⟨before, after, rfl, hbefore, hfault⟩ := h
  induction before generalizing paths with
  | nil =>
    simp only [List.nil_append, expandFrom, hfault]
    rfl
  | cons p before ih =>
    rw [List.forall_mem_cons] at hbefore
    obtain ⟨files, hp⟩ := hbefore.1
    simp only [List.cons_append, expandFrom, hp]
    exact ih _ hbefore.2

lemma FileSystem.expands_or_failsAt (fs : FileSystem) (patterns : List Text) :
    (∃ paths, fs.Expands patterns paths) ∨ ∃ pattern fault, fs.FailsAt patterns pattern fault := by
  have hfiles : ∀ pattern, (∃ files, fs.filesFor pattern = .ok files) ∨
      ∃ fault, fs.filesFor pattern = .error fault := by
    intro pattern
    cases fs.filesFor pattern with
    | ok files => exact .inl ⟨files, rfl⟩
    | error fault => exact .inr ⟨fault, rfl⟩
  rcases exists_forall₂_or_first hfiles patterns with
    ⟨found, hfound⟩ | ⟨before, pattern, after, fault, hsplit, hbefore, hfault⟩
  · exact .inl ⟨_, found, hfound, rfl⟩
  · exact .inr ⟨pattern, fault, before, after, hsplit, hbefore, hfault⟩

/-- Why patterns stand for no file. -/
inductive FileSystem.FailsToExpand (fs : FileSystem) (patterns : List Text) : RunError → Prop
  | badPattern {pattern : Text} {fault : Pattern.Fault} (h : fs.FailsAt patterns pattern fault) :
      FailsToExpand fs patterns (.badPattern pattern fault)
  | noInputFiles (h : fs.Expands patterns []) : FailsToExpand fs patterns (.noInputFiles patterns)

theorem expandPatterns_yields (fs : FileSystem) (patterns : List Text) :
    (expandPatterns fs patterns).Yields (fun paths => fs.Expands patterns paths ∧ paths ≠ [])
      (fs.FailsToExpand patterns) := by
  have hexpand : ∀ paths, fs.Expands patterns paths →
      (expandPatterns fs patterns).result =
        if paths.isEmpty then .error (.noInputFiles patterns) else .ok paths := by
    rintro paths ⟨found, hfound, rfl⟩
    rw [expandPatterns, Logged.result_bind_of_ok (expandFrom_of_filesFor hfound [])]
    split <;> rfl
  apply Logged.Yields.of_total
  · rintro paths ⟨hpaths, hne⟩
    rw [hexpand paths hpaths, if_neg (by simpa using hne)]
  · rintro e (hfault | hnone)
    · exact Logged.result_bind_of_error (expandFrom_of_failsAt hfault []) _
    · exact hexpand [] hnone
  · rcases fs.expands_or_failsAt patterns with ⟨paths, hpaths⟩ | ⟨pattern, fault, hfault⟩
    · by_cases hne : paths = []
      · subst hne
        exact .inr ⟨_, .noInputFiles hpaths⟩
      · exact .inl ⟨paths, hpaths, hne⟩
    · exact .inr ⟨_, .badPattern hfault⟩

namespace Metadata

/-- The first file that does not load, and why. -/
def FailsAt (read : Path → Except OsError ByteArray) (paths : List Path) (e : LoadError) : Prop :=
  ∃ before path after, paths = before ++ path :: after ∧
    (∀ p ∈ before, ∃ m, Loads read p m) ∧ Fails read path e

lemma ofFiles_yields (read : Path → Except OsError ByteArray) (paths : List Path) :
    (ofFiles read paths).Yields (fun m => (ofFiles read paths).result = .ok m)
      (FailsAt read paths) :=
  ⟨fun _ => Iff.rfl, fun _ => ofFiles_eq_error_iff⟩

lemma ofBytes_yields (origin : Text) (bytes : ByteArray) :
    (Logged.ofExcept (ofBytes origin bytes)).Yields (Loads (fun _ => .ok bytes) origin)
      (Fails (fun _ => .ok bytes) origin) :=
  .of_total (fun _ h => h.ofFile_eq) (fun _ h => h.ofFile_eq) (loads_or_fails _ origin)

end Metadata

namespace Options

/-- The metadata of standard input, or of the files that the patterns stand for. -/
inductive Loads (o : Options) (host : Host) : Metadata → Prop
  | stream {m : Metadata} (hfiles : o.files = [])
      (h : Metadata.Loads (fun _ => .ok host.stdin) stdinOrigin m) : Loads o host m
  | files {paths : List Path} {m : Metadata} (hfiles : o.files ≠ [])
      (hpaths : host.files.Expands o.files paths ∧ paths ≠ [])
      (h : (Metadata.ofFiles host.files.read paths).result = .ok m) : Loads o host m

/-- Why there are no metadata: the first stage that fails, and its error. -/
inductive FailsToLoad (o : Options) (host : Host) : RunError → Prop
  | stream {e : LoadError} (hfiles : o.files = [])
      (h : Metadata.Fails (fun _ => .ok host.stdin) stdinOrigin e) : FailsToLoad o host (.load e)
  | patterns {e : RunError} (hfiles : o.files ≠ []) (h : host.files.FailsToExpand o.files e) :
      FailsToLoad o host e
  | files {paths : List Path} {e : LoadError} (hfiles : o.files ≠ [])
      (hpaths : host.files.Expands o.files paths ∧ paths ≠ [])
      (h : Metadata.FailsAt host.files.read paths e) : FailsToLoad o host (.load e)

theorem load_yields (o : Options) (host : Host) :
    (o.load host).Yields (o.Loads host) (o.FailsToLoad host) := by
  by_cases hfiles : o.files = []
  · have hload : o.load host =
        (Logged.ofExcept (Metadata.ofBytes stdinOrigin host.stdin)).mapError .load := by
      rw [load, hfiles]
      rfl
    rw [hload]
    apply ((Metadata.ofBytes_yields stdinOrigin host.stdin).mapError RunError.load).congr
    · intro m
      constructor
      · exact .stream hfiles
      · rintro (⟨-, hm⟩ | ⟨hne, -⟩)
        · exact hm
        · exact absurd hfiles hne
    · intro e
      constructor
      · rintro ⟨d, hd, rfl⟩
        exact .stream hfiles hd
      · rintro (⟨-, hd⟩ | ⟨hne, -⟩ | ⟨hne, -⟩)
        · exact ⟨_, hd, rfl⟩
        · exact absurd hfiles hne
        · exact absurd hfiles hne
  · have hload : o.load host = (expandPatterns host.files o.files).bind fun paths =>
        (Metadata.ofFiles host.files.read paths).mapError .load := by
      rw [load, if_neg (by simpa using hfiles)]
    rw [hload]
    apply ((expandPatterns_yields host.files o.files).bind fun paths =>
      (Metadata.ofFiles_yields host.files.read paths).mapError RunError.load).congr
    · intro m
      constructor
      · rintro ⟨paths, hpaths, hm⟩
        exact .files hfiles hpaths hm
      · rintro (⟨hnil, -⟩ | ⟨-, hpaths, hm⟩)
        · exact absurd hnil hfiles
        · exact ⟨_, hpaths, hm⟩
    · intro e
      constructor
      · rintro (he | ⟨paths, hpaths, d, hd, rfl⟩)
        · exact .patterns hfiles he
        · exact .files hfiles hpaths hd
      · rintro (⟨hnil, -⟩ | ⟨-, he⟩ | ⟨-, hpaths, hd⟩)
        · exact absurd hnil hfiles
        · exact .inl he
        · exact .inr ⟨_, hpaths, _, hd, rfl⟩

/-- The raw document, or what the layout or an external formatter makes of it. -/
inductive Formats (o : Options) (execute : Command → Text → Execution) (raw : Text) : Text → Prop
  | raw (hformat : o.noFormat = true) : Formats o execute raw raw
  | laidOut {t : Text} (hformat : o.noFormat = false) (hline : o.formatter = none)
      (h : layout o.layoutOptions raw = .ok t) : Formats o execute raw t
  | external {line program t : Text} {args : List Text} (hformat : o.noFormat = false)
      (hline : o.formatter = some line) (hwords : line.words = program :: args)
      (h : Command.outcome ⟨program, args⟩ (execute ⟨program, args⟩ raw) = .ok t) :
      Formats o execute raw t

/-- Why the raw document is not formatted. A command without words is no command, and is not run. -/
inductive FailsToFormat (o : Options) (execute : Command → Text → Execution) (raw : Text) :
    RunError → Prop
  | laidOut {fault : Layout.Fault} (hformat : o.noFormat = false) (hline : o.formatter = none)
      (h : layout o.layoutOptions raw = .error fault) :
      FailsToFormat o execute raw (.format (.layout fault))
  | command {line : Text} (hformat : o.noFormat = false) (hline : o.formatter = some line)
      (hwords : line.words = []) : FailsToFormat o execute raw .noFormatterProgram
  | external {line program : Text} {args : List Text} {e : FormatError}
      (hformat : o.noFormat = false) (hline : o.formatter = some line)
      (hwords : line.words = program :: args)
      (h : Command.outcome ⟨program, args⟩ (execute ⟨program, args⟩ raw) = .error e) :
      FailsToFormat o execute raw (.format e)

theorem format_yields (o : Options) (execute : Command → Text → Execution) (raw : Text) :
    (o.format execute raw).Yields (o.Formats execute raw) (o.FailsToFormat execute raw) := by
  apply Logged.Yields.of_total
  · rintro t (hformat | ⟨hformat, hline, h⟩ | ⟨hformat, hline, hwords, h⟩)
    · rw [format, hformat]
      rfl
    · simp only [format, hformat, hline, h]
      rfl
    · simp only [format, hformat, hline, Command.ofLine?, hwords, h]
      rfl
  · rintro e (⟨hformat, hline, h⟩ | ⟨hformat, hline, hwords⟩ | ⟨hformat, hline, hwords, h⟩)
    · simp only [format, hformat, hline, h]
      rfl
    · simp only [format, hformat, hline, Command.ofLine?, hwords]
      rfl
    · simp only [format, hformat, hline, Command.ofLine?, hwords, h]
      rfl
  · cases hformat : o.noFormat with
    | true => exact .inl ⟨raw, .raw hformat⟩
    | false =>
      cases hline : o.formatter with
      | none =>
        cases h : layout o.layoutOptions raw with
        | ok t => exact .inl ⟨t, .laidOut hformat hline h⟩
        | error fault => exact .inr ⟨_, .laidOut hformat hline h⟩
      | some line =>
        cases hwords : line.words with
        | nil => exact .inr ⟨_, .command hformat hline hwords⟩
        | cons program args =>
          cases h : Command.outcome ⟨program, args⟩ (execute ⟨program, args⟩ raw) with
          | ok t => exact .inl ⟨t, .external hformat hline hwords h⟩
          | error e => exact .inr ⟨_, .external hformat hline hwords h⟩

/-- The raw document of metadata. -/
def raw (o : Options) (m : Metadata) : Text := (m.declaration o.moduleOptions).text

/-- The document of a run, by what is there before the run. -/
def Produces (o : Options) (host : Host) (t : Text) : Prop :=
  ∃ m, o.Loads host m ∧ o.Formats host.execute (o.raw m) t

/-- The error of the first stage that fails. -/
def Stops (o : Options) (host : Host) (e : RunError) : Prop :=
  o.FailsToLoad host e ∨ ∃ m, o.Loads host m ∧ o.FailsToFormat host.execute (o.raw m) e

theorem document_yields (o : Options) (host : Host) :
    (o.document host).Yields (o.Produces host) (o.Stops host) :=
  (o.load_yields host).bind fun m => (o.format_yields host.execute (o.raw m)).after _

end Options

end AmbientDecls
