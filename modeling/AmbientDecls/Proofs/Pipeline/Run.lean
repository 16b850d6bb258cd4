import AmbientDecls.Proofs.Files.System
import AmbientDecls.Proofs.Pipeline.Stages

/-!
# Whole runs

A run delivers its whole document or nothing. The document and the error of the first stage that
fails are told by what is there before the run (`Options.Produces`, `Options.Stops`), so a run that
writes over one of its own files still writes the document of the file as it was. Only when all of
it is there the document goes out, and what is left then is told by what the path of the command
line leads to (`FileSystem.Wrote`).
-/

namespace AmbientDecls

open Json

/-- The run reports an error and nothing else, and leaves these files. -/
structure Outcome.FailsWith (r : Outcome) (files : FileSystem) (e : RunError) : Prop where
  exitCode_eq : r.exitCode = 1
  stdout_eq : r.stdout = []
  report_eq : r.report = e.report
  files_eq : r.files = files

/-- The run reports nothing, and leaves a text on standard output and these files. -/
structure Outcome.Succeeds (r : Outcome) (stdout : Text) (files : FileSystem) : Prop where
  exitCode_eq : r.exitCode = 0
  stdout_eq : r.stdout = stdout
  report_eq : r.report = []
  files_eq : r.files = files

lemma Outcome.failsWith_failed (files : FileSystem) (events : List Event) (e : RunError) :
    (Outcome.failed files events e).FailsWith files e :=
  ⟨rfl, rfl, rfl, rfl⟩

section Run

variable {o : Options} {host : Host}

lemma run_of_stops {e : RunError} (h : o.Stops host e) : (run o host).FailsWith host.files e := by
  simp only [run, ((o.document_yields host).error_iff e).mpr h]
  exact Outcome.failsWith_failed _ _ e

variable {t : Text} (h : o.Produces host t)

include h

lemma run_of_output_none (houtput : o.output = none) : (run o host).Succeeds t host.files := by
  simp only [run, ((o.document_yields host).ok_iff t).mpr h, houtput]
  exact ⟨rfl, rfl, rfl, rfl⟩

variable {path : Path} (houtput : o.output = some path)

include houtput

lemma run_of_write_error {e : OsError}
    (hwrite : (host.files.write path (utf8 t)).error? = some e) :
    (run o host).FailsWith (host.files.write path (utf8 t)).files (.write path e) := by
  rw [utf8] at hwrite ⊢
  simp only [run, ((o.document_yields host).ok_iff t).mpr h, houtput, hwrite]
  exact Outcome.failsWith_failed _ _ _

lemma run_of_write_ok (hwrite : (host.files.write path (utf8 t)).error? = none) :
    (run o host).Succeeds (if (host.files.write path (utf8 t)).isShown then t else [])
      (host.files.write path (utf8 t)).files := by
  rw [utf8] at hwrite ⊢
  simp only [run, ((o.document_yields host).ok_iff t).mpr h, houtput, hwrite]
  exact ⟨rfl, rfl, rfl, rfl⟩

end Run

/-- One file with one class, and devices to write to, of which one never has room. -/
def sampleHost : Host where
  files := {
    nodes := [
      (["a".toList], .file (utf8 (Metadata.entriesDocument [("A", {})]).compact)),
      (["dev".toList], .directory),
      (["dev".toList, "null".toList], .device),
      (["dev".toList, "stdout".toList], .device .stdout),
      (["dev".toList, "full".toList], .device)]
    obstacle := fun place =>
      if place = ["dev".toList, "full".toList] then some (.full 0 .noSpace) else none }
  stdin := .empty
  execute _ _ := .notStarted .notFound

/-- What is declared for the file. -/
def sampleDocument : Text :=
  "declare module AtomTypes \x7b\n    /**\n     */\n    class A \x7b\n    \x7d\n\x7d\n".toList

lemma loads_sampleHost {o : Options} (hfiles : o.files = ["a".toList]) :
    o.Loads sampleHost (Metadata.ofEntries [("A", {})]) := by
  have hexpand : sampleHost.files.filesFor "a".toList = .ok ["a".toList] := rfl
  have hpaths : sampleHost.files.Expands o.files ["a".toList] := by
    rw [hfiles]
    exact ⟨[["a".toList]], .cons hexpand .nil, rfl⟩
  have hholds : Metadata.HoldsEntries sampleHost.files.read "a".toList [("A", {})] :=
    ⟨_, _, Metadata.writesEntries_entriesDocument _, Spaced.flatten _, rfl⟩
  have hresult := Metadata.ofFiles_of_holdsEntries (.cons hholds .nil)
  refine .files ?_ ⟨hpaths, List.cons_ne_nil _ _⟩ hresult
  simp [hfiles]

lemma produces_sampleHost (path : Path) :
    Options.Produces { files := ["a".toList], output := some path } sampleHost sampleDocument := by
  have hlayout : layout (Options.layoutOptions {}) (Options.raw {} (.ofEntries [("A", {})])) =
      .ok sampleDocument := by decide +kernel
  exact ⟨_, loads_sampleHost rfl, .laidOut rfl rfl hlayout⟩

end AmbientDecls
