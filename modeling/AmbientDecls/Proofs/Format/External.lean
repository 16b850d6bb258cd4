import AmbientDecls.Proofs.Pipeline.Stages
import AmbientDecls.Proofs.Text.Utf8

/-!
# External formatters

What came of running a formatter decides whether its output is taken, and nothing else does. The
output is taken byte for byte of a program that ended well and read the whole document, if it is a
text (`Command.outcome_eq_ok_iff`). Of everything else that can go wrong, in any combination, one
thing is reported (`Command.outcome_eq_error_iff`).
-/

namespace AmbientDecls

lemma utf8_toList {bytes : ByteArray} {s : String} (h : String.fromUTF8? bytes = some s) :
    utf8 s.toList = bytes := by
  rw [utf8, String.ofList_toList]
  unfold String.fromUTF8? at h
  split at h
  · cases h
    rfl
  · cases h

lemma Utf8.decode_eq_ok_iff {bytes : ByteArray} {t : Text} :
    Utf8.decode bytes = .ok t ↔ utf8 t = bytes := by
  constructor
  · intro h
    unfold Utf8.decode at h
    split at h
    · next s hs =>
      cases h
      exact utf8_toList hs
    · cases h
  · rintro rfl
    simp only [Utf8.decode, fromUTF8?_utf8, String.toList_ofList]

lemma Utf8.decode_of_forall_ne {bytes : ByteArray} (h : ∀ t, utf8 t ≠ bytes) :
    Utf8.decode bytes = .error (firstFault 0 bytes.toList) := by
  unfold Utf8.decode
  split
  · next s hs => exact absurd (utf8_toList hs) (h s.toList)
  · rfl

lemma toList_loop (bytes : ByteArray) (i : Nat) (r : List UInt8) :
    ByteArray.toList.loop bytes i r = r.reverse ++ bytes.data.toList.drop i := by
  fun_induction ByteArray.toList.loop bytes i r with
  | case1 i r hlt ih =>
    have hi : i < bytes.data.toList.length := hlt
    have hget : bytes.get! i = bytes.data.toList[i] := getElem!_pos bytes.data i hlt
    rw [ih, List.drop_eq_getElem_cons hi, List.reverse_cons, hget, ← List.append_cons]
  | case2 i r hge =>
    have hlength : bytes.data.toList.length ≤ i := Nat.le_of_not_lt hge
    rw [List.drop_eq_nil_of_le hlength, List.append_nil]

lemma toList_eq_toList_data (bytes : ByteArray) : bytes.toList = bytes.data.toList := by
  rw [ByteArray.toList, toList_loop]
  rfl

lemma toList_utf8 (t : Text) : (utf8 t).toList = Utf8.encode t := by
  have hbytes : utf8 t = (Utf8.encode t).toByteArray := String.toByteArray_ofList
  rw [hbytes, toList_eq_toList_data, List.toList_data_toByteArray]

lemma eq_utf8_of_toList {bytes : ByteArray} {t : Text} (h : bytes.toList = Utf8.encode t) :
    utf8 t = bytes := by
  rw [← toList_utf8, toList_eq_toList_data, toList_eq_toList_data] at h
  exact (ByteArray.ext (Array.toList_inj.mp h)).symm

/-! ### Outcomes -/

/-- The program ended well, took the whole document and wrote the text. -/
def Execution.Delivers (x : Execution) (t : Text) : Prop :=
  ∃ stderr, x = .ended (.code 0) (utf8 t) stderr none

/-- What is reported of a program that does not deliver, whatever else went wrong with it. -/
inductive Execution.FailsWith (command : Command) : Execution → FormatError → Prop
  | notStarted {error : OsError} :
      FailsWith command (.notStarted error) (.notStarted command.program error)
  | lost {error : OsError} : FailsWith command (.lost error) (.io command.program error)
  | failed {status : ExitStatus} {stdout stderr : ByteArray} {written : Option OsError}
      (hstatus : status ≠ .code 0) : FailsWith command (.ended status stdout stderr written)
        (.failed command.program status (Utf8.decodeLossy stderr.toList).trim)
  | unwritten {stdout stderr : ByteArray} {error : OsError} :
      FailsWith command (.ended (.code 0) stdout stderr (some error)) (.io command.program error)
  | notUtf8 {stdout stderr : ByteArray} (hstdout : ∀ t, utf8 t ≠ stdout) :
      FailsWith command (.ended (.code 0) stdout stderr none)
        (.notUtf8 (Utf8.firstFault 0 stdout.toList))

namespace Command

variable {command : Command} {x : Execution} {t : Text} {e : FormatError}

lemma outcome_of_delivers (h : x.Delivers t) : command.outcome x = .ok t := by
  obtain ⟨stderr, rfl⟩ := h
  have hdecode := Utf8.decode_eq_ok_iff.mpr (rfl : utf8 t = utf8 t)
  simp only [outcome, hdecode]
  rfl

lemma outcome_of_failsWith (h : x.FailsWith command e) : command.outcome x = .error e := by
  cases h with
  | notStarted => rfl
  | lost => rfl
  | @failed status _ _ _ hstatus =>
    have hsuccess : status.isSuccess = false := beq_eq_false_iff_ne.mpr hstatus
    simp only [outcome, hsuccess]
    rfl
  | unwritten => rfl
  | notUtf8 hstdout =>
    simp only [outcome, Utf8.decode_of_forall_ne hstdout]
    rfl

/-- Every execution delivers a text or fails. -/
lemma delivers_or_failsWith (command : Command) (x : Execution) :
    (∃ t, x.Delivers t) ∨ ∃ e, x.FailsWith command e := by
  -- The cases come in the order in which the failures are reported.
  cases x with
  | notStarted error => exact .inr ⟨_, .notStarted⟩
  | lost error => exact .inr ⟨_, .lost⟩
  | ended status stdout stderr written =>
    by_cases hstatus : status = .code 0
    · subst hstatus
      cases written with
      | some error => exact .inr ⟨_, .unwritten⟩
      | none =>
        by_cases hstdout : ∃ t, utf8 t = stdout
        · obtain ⟨t, rfl⟩ := hstdout
          exact .inl ⟨t, stderr, rfl⟩
        · exact .inr ⟨_, .notUtf8 (not_exists.mp hstdout)⟩
    · exact .inr ⟨_, .failed hstatus⟩

lemma outcome_eq_ok_iff : command.outcome x = .ok t ↔ x.Delivers t := by
  refine ⟨fun h => ?_, outcome_of_delivers⟩
  rcases delivers_or_failsWith command x with ⟨t', ht⟩ | ⟨e, he⟩
  · cases h.symm.trans (outcome_of_delivers ht)
    exact ht
  · cases h.symm.trans (outcome_of_failsWith he)

lemma outcome_eq_error_iff : command.outcome x = .error e ↔ x.FailsWith command e := by
  refine ⟨fun h => ?_, outcome_of_failsWith⟩
  rcases delivers_or_failsWith command x with ⟨t, ht⟩ | ⟨e', he⟩
  · cases h.symm.trans (outcome_of_delivers ht)
  · cases h.symm.trans (outcome_of_failsWith he)
    exact he

/-- What a program says of its failure is reported without the blanks around it. -/
lemma outcome_of_stderr {status : ExitStatus} (hstatus : status ≠ .code 0) (stdout : ByteArray)
    (t : Text) (written : Option OsError) :
    command.outcome (.ended status stdout (utf8 t) written) =
      .error (.failed command.program status t.trim) := by
  rw [outcome_of_failsWith (.failed hstatus), toList_utf8, Utf8.decodeLossy_encode]

/-- Output that is no text is one up to the fault, and no character stands there. -/
lemma exists_of_outcome_eq_notUtf8 {fault : Utf8.Fault}
    (h : command.outcome x = .error (.notUtf8 fault)) :
    ∃ stdout stderr t rest, x = .ended (.code 0) stdout stderr none ∧
      stdout.toList = Utf8.encode t ++ rest ∧ rest ≠ [] ∧ Utf8.IsStuck rest ∧
      fault.index = (Utf8.encode t).length := by
  obtain _ | _ | _ | _ | @⟨stdout, stderr, hstdout⟩ := outcome_eq_error_iff.mp h
  obtain ⟨t, rest, hbytes, hrest, hindex⟩ := Utf8.exists_index_firstFault stdout.toList
  refine ⟨stdout, stderr, t, rest, rfl, hbytes, ?_, hrest, hindex⟩
  rintro rfl
  rw [List.append_nil] at hbytes
  exact hstdout t (eq_utf8_of_toList hbytes)

end Command

/-- Of the options, only the command line of the formatter decides what comes of running it. -/
lemma Options.format_external {o : Options} {line : Text} {command : Command}
    (hformat : o.noFormat = false) (hline : o.formatter = some line)
    (hcommand : Command.ofLine? line = some command) (execute : Command → Text → Execution)
    (raw : Text) : (o.format execute raw).result =
      (command.outcome (execute command raw)).mapError .format := by
  simp only [format, hformat, hline, hcommand]
  rfl

/-- What a formatter wrote is the document if it delivered it, and otherwise there is an error for
the first thing that went wrong, whatever the options and the document are. A text that it wrote of
its failure is reported as it is, and output that is no text with the place where it stops being
one. -/
theorem format_external_delivers_or_fails (command : Command) :
    (∀ x t, command.outcome x = .ok t ↔ x.Delivers t) ∧
    (∀ x e, command.outcome x = .error e ↔ x.FailsWith command e) ∧
    (∀ (o : Options) line execute raw, o.noFormat = false → o.formatter = some line →
      Command.ofLine? line = some command → (o.format execute raw).result =
        (command.outcome (execute command raw)).mapError .format) ∧
    (∀ status stdout t written, status ≠ .code 0 →
      command.outcome (.ended status stdout (utf8 t) written) =
        .error (.failed command.program status t.trim)) ∧
    ∀ x fault, command.outcome x = .error (.notUtf8 fault) → ∃ stdout stderr t rest,
      x = .ended (.code 0) stdout stderr none ∧ stdout.toList = Utf8.encode t ++ rest ∧
        rest ≠ [] ∧ Utf8.IsStuck rest ∧ fault.index = (Utf8.encode t).length :=
  ⟨fun _ _ => Command.outcome_eq_ok_iff, fun _ _ => Command.outcome_eq_error_iff,
    fun _ _ execute raw hformat hline hcommand =>
      Options.format_external hformat hline hcommand execute raw,
    fun _ stdout t written hstatus => Command.outcome_of_stderr hstatus stdout t written,
    fun _ _ => Command.exists_of_outcome_eq_notUtf8⟩

/-- A formatter with an argument. -/
def formatterCommand : Command := ⟨['f', 'm', 't'], [['-', 'w']]⟩

/-- A letter, and a byte that no character has. -/
def brokenBytes : ByteArray := ⟨#[0x61, 0xFF]⟩

lemma utf8_ne_brokenBytes (t : Text) : utf8 t ≠ brokenBytes := by
  intro h
  have hnone : String.fromUTF8? brokenBytes = none := by decide
  have hsome := fromUTF8?_utf8 t
  rw [h, hnone] at hsome
  cases hsome

theorem format_external_delivers_or_fails_formatterCommand :
    (({ formatter := some "fmt  -w".toList, useTabs := true } : Options).format
      (fun _ t => .ended (.code 0) (utf8 t) .empty none) ['x']).result = .ok ['x'] ∧
    formatterCommand.outcome (.ended (.code 3) brokenBytes (utf8 [' ', 'n', 'o', '\n'])
      (some .brokenPipe)) = .error (.failed ['f', 'm', 't'] (.code 3) ['n', 'o']) ∧
    formatterCommand.outcome (.ended (.code 0) brokenBytes .empty (some .brokenPipe)) =
      .error (.io ['f', 'm', 't'] .brokenPipe) ∧
    ∃ fault, formatterCommand.outcome (.ended (.code 0) brokenBytes .empty none) =
        .error (.notUtf8 fault) ∧
      ∃ t rest, brokenBytes.toList = Utf8.encode t ++ rest ∧ rest ≠ [] ∧ Utf8.IsStuck rest ∧
        fault.index = (Utf8.encode t).length := by
  obtain ⟨hok, herror, hoptions, hstderr, hfault⟩ :=
    format_external_delivers_or_fails formatterCommand
  refine ⟨?_, hstderr (.code 3) brokenBytes [' ', 'n', 'o', '\n'] (some .brokenPipe) (by decide),
    (herror _ _).mpr .unwritten, ?_⟩
  · have hcommand : Command.ofLine? "fmt  -w".toList = some formatterCommand := by decide
    rw [hoptions _ _ _ _ rfl rfl hcommand, (hok _ ['x']).mpr ⟨.empty, rfl⟩]
    rfl
  · have hbroken := (herror (.ended (.code 0) brokenBytes .empty none) _).mpr
      (.notUtf8 utf8_ne_brokenBytes)
    obtain ⟨stdout, stderr, t, rest, hx, hbytes, hne, hstuck, hindex⟩ := hfault _ _ hbroken
    cases hx
    exact ⟨_, hbroken, t, rest, hbytes, hne, hstuck, hindex⟩

end AmbientDecls
