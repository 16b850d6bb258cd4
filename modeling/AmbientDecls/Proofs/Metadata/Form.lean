import AmbientDecls.Proofs.Json.FormRecord
import AmbientDecls.Proofs.Metadata.Merge

/-!
# The form of metadata

The form that metadata has to have: only the names of properties, methods and arguments have to be
given, any other field may be left out or `null`, and no entry of a list or of the table of classes
may. What is loaded has that form, so a document that is spoiled anywhere is not loaded.
-/

namespace AmbientDecls

open Json

namespace Json.Field.Takes

variable {σ α : Type} {required : List String}

lemma requiredName (set : String → σ → σ) :
    (Field.requiredName set).Takes ["name"] ("name", .text) where
  key_eq := rfl
  required_iff := ⟨fun _ => List.mem_singleton_self _, fun _ => rfl⟩
  read := (Reader.Takes.string.map set).imp fun _ h _ => h

lemma of_nullable {f : Field σ} {form : Form} (hrequired : f.required = false)
    (hread : f.read.Takes fun d => d = .null ∨ form.Allows d) (hkey : f.key ∉ required) :
    f.Takes required (f.key, form) where
  key_eq := rfl
  required_iff := by
    rw [hrequired]
    exact ⟨nofun, fun h => absurd h hkey⟩
  read := by
    apply hread.imp
    rintro d (hd | hd) hnull
    · exact absurd (hnull hd) hkey
    · exact hd

lemma text (key : String) (set : Option String → σ → σ) (hkey : key ∉ required) :
    (Field.text key set).Takes required (key, .text) :=
  of_nullable rfl (((Reader.Takes.string.map some).nullable none).map set) hkey

lemma defaulted {read : Reader α} {form : Form} (hread : read.Takes form.Allows) (key : String)
    (default : α) (set : α → σ → σ) (hkey : key ∉ required) :
    (Field.defaulted key default read set).Takes required (key, form) :=
  of_nullable rfl ((hread.nullable default).map set) hkey

end Json.Field.Takes

open Json.Field Json.Reader

/-- A record of which one field is spoiled. -/
lemma Json.Form.Spoils.recordField {required : List String} {fields : List (String × Form)}
    {key : String} {form : Form} {d d' : Document} (h : form.Spoils d d')
    (before after : List (String × Document)) (hform : (key, form) ∈ fields) :
    (Form.record required fields).Spoils (.record (before ++ (key, d) :: after))
      (.record (before ++ (key, d') :: after)) := by
  simp only [Document.record, List.map_append, List.map_cons]
  exact .field hform (StringBody.spells_ofString _) h

/-! ### Records -/

namespace Argument

/-- An argument has to have a name. -/
def form : Form :=
  .record ["name"] [("name", .text), ("type", .text), ("isOptional", .flag), ("description", .text)]

lemma takes : schema.reader.Takes form.Allows := by
  apply Schema.HasForm.takes_reader
  constructor
  · exact .cons (.requiredName _) <| .cons (.text _ _ (by decide)) <|
      .cons (.defaulted .bool _ _ _ (by decide)) <| .cons (.text _ _ (by decide)) .nil
  · decide
  · decide

end Argument

namespace ReturnValue

/-- A return value may be empty. -/
def form : Form := .record [] [("type", .text), ("description", .text)]

lemma takes : schema.reader.Takes form.Allows := by
  apply Schema.HasForm.takes_reader
  constructor
  · exact .cons (.text _ _ (by decide)) <| .cons (.text _ _ (by decide)) .nil
  · decide
  · decide

end ReturnValue

namespace Method

/-- A method has to have a name. -/
def form : Form :=
  .record ["name"] [("name", .text), ("description", .text), ("arguments", .list Argument.form),
    ("returnValues", .list ReturnValue.form)]

lemma takes : schema.reader.Takes form.Allows := by
  apply Schema.HasForm.takes_reader
  constructor
  · exact .cons (.requiredName _) <| .cons (.text _ _ (by decide)) <|
      .cons (.defaulted Argument.takes.list _ _ _ (by decide)) <|
      .cons (.defaulted ReturnValue.takes.list _ _ _ (by decide)) .nil
  · decide
  · decide

end Method

namespace Property

/-- A property has to have a name. -/
def form : Form := .record ["name"] [("name", .text), ("description", .text), ("summary", .text)]

lemma takes : schema.reader.Takes form.Allows := by
  apply Schema.HasForm.takes_reader
  constructor
  · exact .cons (.requiredName _) <| .cons (.text _ _ (by decide)) <|
      .cons (.text _ _ (by decide)) .nil
  · decide
  · decide

end Property

namespace ClassDoc

/-- A class may be empty, but not its members. -/
def form : Form :=
  .record [] [("name", .text), ("description", .text), ("filename", .text), ("superClass", .text),
    ("classProperties", .list Property.form), ("instanceProperties", .list Property.form),
    ("classMethods", .list Method.form), ("instanceMethods", .list Method.form)]

lemma takes : schema.reader.Takes form.Allows := by
  apply Schema.HasForm.takes_reader
  constructor
  · exact .cons (.defaulted .string _ _ _ (by decide)) <| .cons (.text _ _ (by decide)) <|
      .cons (.text _ _ (by decide)) <| .cons (.text _ _ (by decide)) <|
      .cons (.defaulted Property.takes.list _ _ _ (by decide)) <|
      .cons (.defaulted Property.takes.list _ _ _ (by decide)) <|
      .cons (.defaulted Method.takes.list _ _ _ (by decide)) <|
      .cons (.defaulted Method.takes.list _ _ _ (by decide)) .nil
  · decide
  · decide

end ClassDoc

namespace Metadata

/-- Metadata is a table of classes. -/
def form : Form := .record [] [("classes", .table ClassDoc.form)]

lemma takes : schema.reader.Takes form.Allows := by
  apply Schema.HasForm.takes_reader
  constructor
  · exact .cons (.defaulted ClassDoc.takes.table _ _ _ (by decide)) .nil
  · decide
  · decide

/-- What is read as metadata has its form. -/
theorem allows_of_ofJson {d : Document} {t : Text} {m : Metadata} (ht : Spaced d.tokens t)
    (h : ofJson t = .ok m) : form.Allows d := by
  rw [← List.append_nil d.tokens] at ht
  unfold ofJson at h
  split at h
  · cases h
  · next hrun =>
    have hends : EndsValue [] := nofun
    exact (takes hends ht hrun).1

/-- Spoiled metadata is not read. -/
lemma exists_fault_of_spoils {m : Metadata} {d d' : Document} {t : Text} (hd : m.IsWritten d)
    (hspoils : form.Spoils d d') (ht : Spaced d'.tokens t) : ∃ fault, ofJson t = .error fault := by
  -- The document that is spoiled can be read, so it had the form.
  have hallows : form.Allows d :=
    allows_of_ofJson (Spaced.flatten _) (ofJson_of_isWritten hd (Spaced.flatten _))
  cases h : ofJson t with
  | error fault => exact ⟨fault, rfl⟩
  | ok m' => exact absurd (allows_of_ofJson ht h) (hspoils.not_allows hallows)

/-- Metadata that is spoiled at one place is malformed, be it read from a stream or from a file
behind others that load. -/
theorem malformed_of_spoils {m : Metadata} {d d' : Document} {t : Text} (hd : m.IsWritten d)
    (hspoils : form.Spoils d d') (ht : Spaced d'.tokens t) :
    (∀ origin, ∃ cause location,
      ofStream origin (utf8 t) = (.error (.malformed origin cause location), ByteArray.empty)) ∧
    ∀ read before path after, (∀ p ∈ before, ∃ m, Loads read p m) → read path = .ok (utf8 t) →
      ∃ cause location, (ofFiles read (before ++ path :: after)).result =
        .error (.malformed path cause location) := by
  obtain ⟨fault, hfault⟩ := exists_fault_of_spoils hd hspoils ht
  have htext : ofJson (String.ofList t).toList = .error fault := by
    rw [String.toList_ofList]
    exact hfault
  constructor
  · intro origin
    refine ⟨fault.cause, fault.location (String.ofList t).toList, ?_⟩
    simp only [ofStream, ofBytes, fromUTF8?_utf8, htext, Option.isSome_some, if_true]
  · intro read before path after hbefore hread
    have hfails := Fails.notMetadata hread (fromUTF8?_utf8 t) htext
    exact ⟨_, _, ofFilesFrom_of_fails hbefore hfails {}⟩

/-- The argument of `unusual`, whose type is given twice. -/
def spoiledArgument : Document :=
  .record [("name", .text "x"), ("type", .text "int"), ("isOptional", .bool true),
    ("type", .null), ("description", .null)]

/-- The method of `unusual` with that argument. -/
def spoiledMethod : Document :=
  .record [("name", .text "f"), ("description", .null), ("arguments", .array [spoiledArgument]),
    ("returnValues", .array [])]

/-- The class of `unusual` with that method. -/
def spoiledClass : Document :=
  .record [("name", .text ""), ("description", .null), ("filename", .null),
    ("superClass", .text "B"), ("classProperties", .array []), ("instanceProperties", .array []),
    ("classMethods", .array []), ("instanceMethods", .array [spoiledMethod])]

/-- The document of `unusual` with that class. -/
def spoiledUnusual : Document := .record [("classes", .record [("A", spoiledClass)])]

lemma spoils_spoiledArgument :
    Argument.form.Spoils (Argument.document ⟨"x", some "int", true, none⟩) spoiledArgument :=
  @Form.Spoils.repeated _ _ ("type", .text) (.ofString "type", .text "int") (.ofString "type") .null
    [(.ofString "name", .text "x"), (.ofString "type", .text "int"),
      (.ofString "isOptional", .bool true)]
    [(.ofString "description", .null)] (by simp) (by simp) (StringBody.spells_ofString _)
    (StringBody.spells_ofString _)

lemma spoils_spoiledMethod : Method.form.Spoils unusualMethod.document spoiledMethod := by
  have harguments := @Form.Spoils.element _ _ _ [] [] spoils_spoiledArgument
  exact harguments.recordField [("name", .text "f"), ("description", .null)]
    [("returnValues", .array [])] (.tail _ <| .tail _ <| .head _)

lemma spoils_spoiledUnusual : form.Spoils unusual.document spoiledUnusual := by
  have hmethods := @Form.Spoils.element _ _ _ [] [] spoils_spoiledMethod
  have hclass : ClassDoc.form.Spoils unusualClass.document spoiledClass :=
    hmethods.recordField [("name", .text ""), ("description", .null), ("filename", .null),
      ("superClass", .text "B"), ("classProperties", .array []), ("instanceProperties", .array []),
      ("classMethods", .array [])] [] (by simp)
  have hclasses := @Form.Spoils.entry _ (.ofString "A") _ _ [] [] hclass
  exact hclasses.recordField [] [] (.head _)

/-- A file with `unusual`, and files in which it is spoiled. -/
def spoiledFiles (path : Path) : Except OsError ByteArray :=
  .ok (utf8 (if path = ['a'] then unusual.toJson else spoiledUnusual.compact))

lemma loads_spoiledFiles : Loads spoiledFiles ['a'] unusual := by
  refine ⟨utf8 unusual.toJson, _, rfl, fromUTF8?_utf8 _, ?_⟩
  rw [String.toList_ofList]
  exact ofJson_of_isWritten unusual.isWritten_document (Spaced.flatten _)

theorem malformed_of_spoils_repeatedType :
    unusual.IsWritten unusual.document ∧ form.Spoils unusual.document spoiledUnusual ∧
    (∃ cause location, ofStream "<stdin>".toList (utf8 spoiledUnusual.compact) =
      (.error (.malformed "<stdin>".toList cause location), ByteArray.empty)) ∧
    ∃ cause location, (ofFiles spoiledFiles [['a'], ['b'], ['c']]).result =
      .error (.malformed ['b'] cause location) := by
  obtain ⟨hstream, hfiles⟩ := malformed_of_spoils unusual.isWritten_document spoils_spoiledUnusual
    (Spaced.flatten _)
  have hbefore : ∀ p ∈ [['a']], ∃ m, Loads spoiledFiles p m :=
    List.forall_mem_singleton.mpr ⟨unusual, loads_spoiledFiles⟩
  exact ⟨unusual.isWritten_document, spoils_spoiledUnusual, hstream _,
    hfiles spoiledFiles [['a']] ['b'] [['c']] hbefore rfl⟩

end Metadata

end AmbientDecls
