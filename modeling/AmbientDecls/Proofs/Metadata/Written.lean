import AmbientDecls.Metadata.Wire
import AmbientDecls.Proofs.Json.Record

/-!
# The documents of metadata

Which documents stand for metadata: every record by its keys, with the members of classes and
methods as arrays, and the classes as an object whose keys are data. `IsWritten` allows every way to
write a record; `document` is one of them, with every key in order and absent texts as `null`.
-/

namespace AmbientDecls

open Json

namespace Json

/-- The document is a spelling of the text. -/
def IsString (s : String) (d : Document) : Prop := ∃ b, d = .string b ∧ b.Spells s

namespace WrittenField

/-- A name, which has to be given. -/
def name (value : String) : WrittenField := ⟨"name", False, IsString value⟩

/-- An optional text, which is left out if it is absent. -/
def text (key : String) (value : Option String) : WrittenField :=
  ⟨key, value = none, fun d => ∃ s ∈ value, IsString s d⟩

/-- A name that is empty if it is left out. -/
def optionalName (value : String) : WrittenField := ⟨"name", value = "", IsString value⟩

/-- A flag that is off if it is left out. -/
def flag (key : String) (value : Bool) : WrittenField := ⟨key, value = false, (· = .bool value)⟩

/-- A list that is empty if it is left out. -/
def list {α : Type} (key : String) (values : List α) (IsItem : α → Document → Prop) :
    WrittenField :=
  ⟨key, values = [], fun d => ∃ ds, d = .array ds ∧ List.Forall₂ IsItem values ds⟩

/-- A table that is empty if it is left out. Its keys are data and may be repeated. -/
def table {α : Type} (key : String) (entries : List (String × α)) (IsItem : α → Document → Prop) :
    WrittenField :=
  ⟨key, entries = [], fun d => ∃ ms, d = .object ms ∧
    List.Forall₂ (fun e m => m.1.Spells e.1 ∧ IsItem e.2 m.2) entries ms⟩

end WrittenField

/-- An object with these keys. -/
def Document.record (fields : List (String × Document)) : Document :=
  .object (fields.map fun f => (.ofString f.1, f.2))

/-- A text as a string. -/
def Document.text (s : String) : Document := .string (.ofString s)

/-- A text as a string, and an absent one as `null`. -/
def Document.optionalText (s : Option String) : Document := s.elim .null .text

end Json

/-! ### Records -/

namespace Argument

/-- The fields of an argument. -/
def written (a : Argument) : List WrittenField :=
  [.name a.name, .text "type" a.type, .flag "isOptional" a.isOptional,
    .text "description" a.description]

/-- The document is a way to write the argument. -/
def IsWritten (a : Argument) (d : Document) : Prop := WritesRecord a.written d

/-- The argument with every key. -/
def document (a : Argument) : Document :=
  .record [("name", .text a.name), ("type", .optionalText a.type),
    ("isOptional", .bool a.isOptional), ("description", .optionalText a.description)]

end Argument

namespace ReturnValue

/-- The fields of a return value. -/
def written (r : ReturnValue) : List WrittenField :=
  [.text "type" r.type, .text "description" r.description]

/-- The document is a way to write the return value. -/
def IsWritten (r : ReturnValue) (d : Document) : Prop := WritesRecord r.written d

/-- The return value with every key. -/
def document (r : ReturnValue) : Document :=
  .record [("type", .optionalText r.type), ("description", .optionalText r.description)]

end ReturnValue

namespace Method

/-- The fields of a method. -/
def written (m : Method) : List WrittenField :=
  [.name m.name, .text "description" m.description,
    .list "arguments" m.arguments Argument.IsWritten,
    .list "returnValues" m.returnValues ReturnValue.IsWritten]

/-- The document is a way to write the method. -/
def IsWritten (m : Method) (d : Document) : Prop := WritesRecord m.written d

/-- The method with every key. -/
def document (m : Method) : Document :=
  .record [("name", .text m.name), ("description", .optionalText m.description),
    ("arguments", .array (m.arguments.map Argument.document)),
    ("returnValues", .array (m.returnValues.map ReturnValue.document))]

end Method

namespace Property

/-- The fields of a property. -/
def written (p : Property) : List WrittenField :=
  [.name p.name, .text "description" p.description, .text "summary" p.summary]

/-- The document is a way to write the property. -/
def IsWritten (p : Property) (d : Document) : Prop := WritesRecord p.written d

/-- The property with every key. -/
def document (p : Property) : Document :=
  .record [("name", .text p.name), ("description", .optionalText p.description),
    ("summary", .optionalText p.summary)]

end Property

namespace ClassDoc

/-- The fields of a class. -/
def written (c : ClassDoc) : List WrittenField :=
  [.optionalName c.name, .text "description" c.description, .text "filename" c.filename,
    .text "superClass" c.superClass,
    .list "classProperties" c.classProperties Property.IsWritten,
    .list "instanceProperties" c.instanceProperties Property.IsWritten,
    .list "classMethods" c.classMethods Method.IsWritten,
    .list "instanceMethods" c.instanceMethods Method.IsWritten]

/-- The document is a way to write the class. -/
def IsWritten (c : ClassDoc) (d : Document) : Prop := WritesRecord c.written d

/-- The class with every key. -/
def document (c : ClassDoc) : Document :=
  .record [("name", .text c.name), ("description", .optionalText c.description),
    ("filename", .optionalText c.filename), ("superClass", .optionalText c.superClass),
    ("classProperties", .array (c.classProperties.map Property.document)),
    ("instanceProperties", .array (c.instanceProperties.map Property.document)),
    ("classMethods", .array (c.classMethods.map Method.document)),
    ("instanceMethods", .array (c.instanceMethods.map Method.document))]

end ClassDoc

namespace Metadata

/-- The document is a way to write metadata whose table of classes has these entries, of which
several may have one key. -/
def WritesEntries (entries : List (String × ClassDoc)) (d : Document) : Prop :=
  WritesRecord [.table "classes" entries ClassDoc.IsWritten] d

/-- The document is a way to write the metadata. -/
def IsWritten (m : Metadata) (d : Document) : Prop := WritesEntries m.classes.entries d

/-- A table of these entries, with every key. -/
def entriesDocument (entries : List (String × ClassDoc)) : Document :=
  .record [("classes", .record (entries.map fun e => (e.1, e.2.document)))]

/-- The metadata with every key. -/
def document (m : Metadata) : Document := entriesDocument m.classes.entries

/-- The metadata as a text without blanks. -/
def toJson (m : Metadata) : Text := m.document.compact

end Metadata

namespace Json

lemma isString_text (s : String) : IsString s (.text s) :=
  ⟨_, rfl, StringBody.spells_ofString s⟩

namespace WrittenField

lemma writes_name (s : String) : (name s).Writes (.text s) := .inl (isString_text s)

lemma writes_text (key : String) (s : Option String) : (text key s).Writes (.optionalText s) := by
  cases s with
  | none => exact .inr ⟨rfl, rfl⟩
  | some s => exact .inl ⟨s, rfl, isString_text s⟩

lemma writes_optionalName (s : String) : (optionalName s).Writes (.text s) :=
  .inl (isString_text s)

lemma writes_flag (key : String) (b : Bool) : (flag key b).Writes (.bool b) := .inl rfl

lemma writes_list {α : Type} {IsItem : α → Document → Prop} {document : α → Document}
    (h : ∀ a, IsItem a (document a)) (key : String) (values : List α) :
    (list key values IsItem).Writes (.array (values.map document)) :=
  .inl ⟨_, rfl, List.forall₂_map_right_iff.mpr (List.forall₂_same.mpr fun a _ => h a)⟩

lemma writes_table {α : Type} {IsItem : α → Document → Prop} {document : α → Document}
    (h : ∀ a, IsItem a (document a)) (key : String) (entries : List (String × α)) :
    (table key entries IsItem).Writes (.record (entries.map fun e => (e.1, document e.2))) := by
  refine .inl ⟨_, rfl, ?_⟩
  rw [List.forall₂_map_right_iff, List.forall₂_map_right_iff]
  exact List.forall₂_same.mpr fun e _ => ⟨StringBody.spells_ofString e.1, h e.2⟩

end WrittenField

/-- A record may be written with every key in order. -/
lemma writesRecord_record {fs : List WrittenField} {fields : List (String × Document)}
    (h : List.Forall₂ (fun f e => f.key = e.1 ∧ f.Writes e.2) fs fields) :
    WritesRecord fs (.record fields) := by
  have hgiven : Given fs (fields.map fun e => (StringBody.ofString e.1, e.2)) := by
    induction h with
    | nil => exact .nil
    | cons hf _ ih =>
      obtain ⟨hkey, hwrites⟩ := hf
      exact .give (hkey ▸ StringBody.spells_ofString _) hwrites ih
  exact .object hgiven (List.forall_mem_nil _) (by rw [List.append_nil])

end Json

open Json.WrittenField

lemma Argument.isWritten_document (a : Argument) : a.IsWritten a.document :=
  writesRecord_record <| .cons ⟨rfl, writes_name _⟩ <| .cons ⟨rfl, writes_text _ _⟩ <|
    .cons ⟨rfl, writes_flag _ _⟩ <| .cons ⟨rfl, writes_text _ _⟩ .nil

lemma ReturnValue.isWritten_document (r : ReturnValue) : r.IsWritten r.document :=
  writesRecord_record <| .cons ⟨rfl, writes_text _ _⟩ <| .cons ⟨rfl, writes_text _ _⟩ .nil

lemma Method.isWritten_document (m : Method) : m.IsWritten m.document :=
  writesRecord_record <| .cons ⟨rfl, writes_name _⟩ <| .cons ⟨rfl, writes_text _ _⟩ <|
    .cons ⟨rfl, writes_list Argument.isWritten_document _ _⟩ <|
    .cons ⟨rfl, writes_list ReturnValue.isWritten_document _ _⟩ .nil

lemma Property.isWritten_document (p : Property) : p.IsWritten p.document :=
  writesRecord_record <| .cons ⟨rfl, writes_name _⟩ <| .cons ⟨rfl, writes_text _ _⟩ <|
    .cons ⟨rfl, writes_text _ _⟩ .nil

lemma ClassDoc.isWritten_document (c : ClassDoc) : c.IsWritten c.document :=
  writesRecord_record <| .cons ⟨rfl, writes_optionalName _⟩ <| .cons ⟨rfl, writes_text _ _⟩ <|
    .cons ⟨rfl, writes_text _ _⟩ <| .cons ⟨rfl, writes_text _ _⟩ <|
    .cons ⟨rfl, writes_list Property.isWritten_document _ _⟩ <|
    .cons ⟨rfl, writes_list Property.isWritten_document _ _⟩ <|
    .cons ⟨rfl, writes_list Method.isWritten_document _ _⟩ <|
    .cons ⟨rfl, writes_list Method.isWritten_document _ _⟩ .nil

lemma Metadata.writesEntries_entriesDocument (entries : List (String × ClassDoc)) :
    WritesEntries entries (entriesDocument entries) :=
  writesRecord_record <| .cons ⟨rfl, writes_table ClassDoc.isWritten_document _ _⟩ .nil

lemma Metadata.isWritten_document (m : Metadata) : m.IsWritten m.document :=
  writesEntries_entriesDocument m.classes.entries

end AmbientDecls
