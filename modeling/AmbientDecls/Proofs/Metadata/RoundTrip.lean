import AmbientDecls.Metadata.Load
import AmbientDecls.Proofs.Metadata.Table
import AmbientDecls.Proofs.Metadata.Written

/-!
# Metadata is read as it was written

Every document of a record is read as the record, from arguments up to metadata. What is left to
check of a record is that its fields are read under the keys under which they are written, that
they do not get in each other's way, and that together they make the record.
-/

namespace AmbientDecls

open Json Json.WrittenField

namespace Json.ReadField

variable {σ : Type} {s : Schema σ}

/-- A name that has to be given. -/
@[simp] def name (value : String) (set : String → σ → σ) : ReadField s where
  field := .requiredName set
  written := .name value
  update := set value
  key_eq := rfl
  reads := by
    rintro d (⟨b, rfl, hb⟩ | ⟨h, -⟩)
    · exact (Reader.reads_string hb).map set
    · exact h.elim
  update_empty := fun h => h.elim
  not_default := fun _ h => h

/-- An optional text. -/
@[simp] def text (key : String) (value : Option String) (set : Option String → σ → σ)
    (hset : set none s.empty = s.empty := by rfl) : ReadField s where
  field := .text key set
  written := .text key value
  update := set value
  key_eq := rfl
  reads := by
    rintro d (⟨t, ht, b, rfl, hb⟩ | ⟨h, rfl⟩)
    · have hread := (((Reader.reads_string hb).map some).nullable nofun none).map set
      rw [Option.mem_def.mp ht]
      exact hread
    · rw [show value = none from h]
      exact (Reader.reads_nullable_null none _).map set
  update_empty := fun h => by rw [show value = none from h, hset]
  not_default := nofun

/-- A field with a default value. -/
@[simp] def defaulted {α : Type} (written : WrittenField) (default value : α) (read : Reader α)
    (set : α → σ → σ) (hread : ∀ d, written.IsValue d → read.Reads d value ∧ d ≠ .null)
    (hdefault : written.isDefault → value = default) (hset : set default s.empty = s.empty) :
    ReadField s where
  field := .defaulted written.key default read set
  written := written
  update := set value
  key_eq := rfl
  reads := by
    rintro d (hd | ⟨h, rfl⟩)
    · exact ((hread d hd).1.nullable (hread d hd).2 default).map set
    · rw [hdefault h]
      exact (Reader.reads_nullable_null default read).map set
  update_empty := fun h => by rw [hdefault h, hset]
  not_default := nofun

/-- A flag that is off by default. -/
@[simp] def flag (key : String) (value : Bool) (set : Bool → σ → σ)
    (hset : set false s.empty = s.empty := by rfl) : ReadField s :=
  .defaulted (.flag key value) false value .bool set
    (by rintro d rfl; exact ⟨Reader.reads_bool value, nofun⟩) id hset

/-- A name that is empty by default. -/
@[simp] def optionalName (value : String) (set : String → σ → σ)
    (hset : set "" s.empty = s.empty := by rfl) : ReadField s :=
  .defaulted (.optionalName value) "" value .string set
    (by rintro d ⟨b, rfl, hb⟩; exact ⟨Reader.reads_string hb, nofun⟩) id hset

/-- A list that is empty by default. -/
@[simp] def list {α : Type} {IsItem : α → Document → Prop} {item : Reader α}
    (hitem : ∀ a d, IsItem a d → item.Reads d a) (key : String) (values : List α)
    (set : List α → σ → σ) (hset : set [] s.empty = s.empty := by rfl) : ReadField s :=
  .defaulted (.list key values IsItem) [] values (.list item) set
    (by
      rintro d ⟨ds, rfl, hds⟩
      exact ⟨Reader.reads_list (hds.imp hitem).flip, nofun⟩)
    id hset

/-- A table that is empty by default. -/
def table {α : Type} {IsItem : α → Document → Prop} {item : Reader α}
    (hitem : ∀ a d, IsItem a d → item.Reads d a) (key : String) (entries : List (String × α))
    (set : Table α → σ → σ) (hset : set Table.empty s.empty = s.empty := by rfl) : ReadField s :=
  .defaulted (.table key entries IsItem) Table.empty (Table.empty.insertMany entries) (.table item)
    set
    (by
      rintro d ⟨ms, rfl, hms⟩
      exact ⟨Reader.reads_table (hms.imp fun e m hm => ⟨hm.1, hitem e.2 m.2 hm.2⟩).flip, nofun⟩)
    (by rintro (rfl : entries = []); rfl) hset

end Json.ReadField

namespace Argument

/-- The fields of an argument as they are read. -/
def readFields (a : Argument) : List (ReadField schema) :=
  [.name a.name fun v a => { a with name := v },
    .text "type" a.type fun v a => { a with type := v },
    .flag "isOptional" a.isOptional fun v a => { a with isOptional := v },
    .text "description" a.description fun v a => { a with description := v }]

lemma readsFields (a : Argument) : schema.ReadsFields a.readFields a where
  fields := rfl
  nodup := by decide
  commute := by simp [readFields, ReadField.Commute]
  updateAll_eq := by simp [Schema.updateAll, readFields]

lemma reads (a : Argument) (d : Document) (h : a.IsWritten d) : schema.reader.Reads d a :=
  a.readsFields.reads h

end Argument

namespace ReturnValue

/-- The fields of a return value as they are read. -/
def readFields (r : ReturnValue) : List (ReadField schema) :=
  [.text "type" r.type fun v r => { r with type := v },
    .text "description" r.description fun v r => { r with description := v }]

lemma readsFields (r : ReturnValue) : schema.ReadsFields r.readFields r where
  fields := rfl
  nodup := by decide
  commute := by simp [readFields, ReadField.Commute]
  updateAll_eq := by simp [Schema.updateAll, readFields]

lemma reads (r : ReturnValue) (d : Document) (h : r.IsWritten d) : schema.reader.Reads d r :=
  r.readsFields.reads h

end ReturnValue

namespace Method

/-- The fields of a method as they are read. -/
def readFields (m : Method) : List (ReadField schema) :=
  [.name m.name fun v m => { m with name := v },
    .text "description" m.description fun v m => { m with description := v },
    .list Argument.reads "arguments" m.arguments fun v m => { m with arguments := v },
    .list ReturnValue.reads "returnValues" m.returnValues
      fun v m => { m with returnValues := v }]

lemma readsFields (m : Method) : schema.ReadsFields m.readFields m where
  fields := rfl
  nodup := by decide
  commute := by simp [readFields, ReadField.Commute]
  updateAll_eq := by simp [Schema.updateAll, readFields]

lemma reads (m : Method) (d : Document) (h : m.IsWritten d) : schema.reader.Reads d m :=
  m.readsFields.reads h

end Method

namespace Property

/-- The fields of a property as they are read. -/
def readFields (p : Property) : List (ReadField schema) :=
  [.name p.name fun v p => { p with name := v },
    .text "description" p.description fun v p => { p with description := v },
    .text "summary" p.summary fun v p => { p with summary := v }]

lemma readsFields (p : Property) : schema.ReadsFields p.readFields p where
  fields := rfl
  nodup := by decide
  commute := by simp [readFields, ReadField.Commute]
  updateAll_eq := by simp [Schema.updateAll, readFields]

lemma reads (p : Property) (d : Document) (h : p.IsWritten d) : schema.reader.Reads d p :=
  p.readsFields.reads h

end Property

namespace ClassDoc

/-- The fields of a class as they are read. -/
def readFields (c : ClassDoc) : List (ReadField schema) :=
  [.optionalName c.name fun v c => { c with name := v },
    .text "description" c.description fun v c => { c with description := v },
    .text "filename" c.filename fun v c => { c with filename := v },
    .text "superClass" c.superClass fun v c => { c with superClass := v },
    .list Property.reads "classProperties" c.classProperties
      fun v c => { c with classProperties := v },
    .list Property.reads "instanceProperties" c.instanceProperties
      fun v c => { c with instanceProperties := v },
    .list Method.reads "classMethods" c.classMethods fun v c => { c with classMethods := v },
    .list Method.reads "instanceMethods" c.instanceMethods
      fun v c => { c with instanceMethods := v }]

lemma readsFields (c : ClassDoc) : schema.ReadsFields c.readFields c where
  fields := rfl
  nodup := by decide
  commute := by simp [readFields, ReadField.Commute]
  updateAll_eq := by simp [Schema.updateAll, readFields]

lemma reads (c : ClassDoc) (d : Document) (h : c.IsWritten d) : schema.reader.Reads d c :=
  c.readsFields.reads h

end ClassDoc

namespace Metadata

/-- The metadata of a table with these entries. Of the entries under one key, the last gives the
class and the first its place. -/
def ofEntries (entries : List (String × ClassDoc)) : Metadata :=
  ⟨Table.empty.insertMany entries⟩

lemma ofEntries_entries (m : Metadata) : ofEntries m.classes.entries = m := by
  rw [ofEntries, Table.empty_insertMany_entries]

/-- The field of metadata as it is read. -/
def readFields (entries : List (String × ClassDoc)) : List (ReadField schema) :=
  [.table ClassDoc.reads "classes" entries fun v m => { m with classes := v }]

lemma readsFields (entries : List (String × ClassDoc)) :
    schema.ReadsFields (readFields entries) (ofEntries entries) where
  fields := rfl
  nodup := by decide
  commute := List.pairwise_singleton _ _
  updateAll_eq := rfl

/-- A table in which keys are repeated is read as what its entries make. -/
theorem ofJson_of_writesEntries {entries : List (String × ClassDoc)} {d : Document} {t : Text}
    (h : WritesEntries entries d) (ht : Spaced d.tokens t) :
    ofJson t = .ok (ofEntries entries) := by
  rw [← List.append_nil d.tokens] at ht
  obtain ⟨rest, hrun, hrest⟩ := (readsFields entries).reads h ht
  rw [ofJson, hrun]
  simp only [skipSpace_of_spaced_nil hrest]

lemma ofJson_of_isWritten {m : Metadata} {d : Document} {t : Text} (h : m.IsWritten d)
    (ht : Spaced d.tokens t) : ofJson t = .ok m := by
  rw [ofJson_of_writesEntries h ht, ofEntries_entries]

end Metadata

/-! ### Metadata from bytes -/

/-- The bytes of a text. -/
def utf8 (t : Text) : ByteArray := (String.ofList t).toUTF8

lemma fromUTF8?_utf8 (t : Text) : String.fromUTF8? (utf8 t) = some (String.ofList t) := by
  rw [String.fromUTF8?]
  exact dif_pos (String.ofList t).isValidUTF8

namespace Metadata

lemma ofBytes_utf8 {m : Metadata} {t : Text} (h : ofJson t = .ok m) (origin : Text) :
    ofBytes origin (utf8 t) = .ok m := by
  simp only [ofBytes, fromUTF8?_utf8, String.toList_ofList, h]

lemma ofStream_utf8 {m : Metadata} {t : Text} (h : ofJson t = .ok m) (origin : Text) :
    ofStream origin (utf8 t) = (.ok m, ByteArray.empty) := by
  simp only [ofStream, ofBytes_utf8 h, fromUTF8?_utf8, Option.isSome_some, if_true]

/-- A method with one argument. -/
def unusualMethod : Method := ⟨"f", none, [⟨"x", some "int", true, none⟩], []⟩

/-- A class with that method. -/
def unusualClass : ClassDoc := { superClass := some "B", instanceMethods := [unusualMethod] }

/-- Metadata of that class. -/
def unusual : Metadata := ⟨⟨[("A", unusualClass)], by decide⟩⟩

/-- Half of a pair of escapes and a number, under a key that classes do not have. -/
def unusualExtra : StringBody × Document :=
  (.ofString "extra", .array [
    .string ⟨['\\', 'u', 'd', '8', '0', '0'], .unit (n := 0xD800) rfl .nil⟩,
    .number {
      negative := true
      whole := ['0']
      fraction := some ['5']
      exponent := none
      isDigits_whole := isDigits_singleton rfl
      whole_of_zero := fun _ => rfl
      isDigits_fraction := by rintro _ ⟨⟩; exact isDigits_singleton rfl }])

/-- The method as an array. The type of its argument stands before the name. -/
def unusualMethodDocument : Document :=
  .array [.text "f", .null,
    .array [.record [("type", .text "int"), ("name", .text "x"), ("isOptional", .bool true)]]]

lemma spells_unusualBase : Spells ['\\', 'u', '0', '0', '4', '2'] "B".toList :=
  .unit (n := 0x42) rfl rfl rfl .nil

/-- The fields of the class. Its name is `null`, and its base is an escape. -/
def unusualFields : List (StringBody × Document) :=
  [(.ofString "name", .null),
    (.ofString "superClass", .string ⟨_, spells_unusualBase.isStringBody⟩),
    (.ofString "instanceMethods", .array [unusualMethodDocument])]

/-- The metadata as an array. -/
def unusualDocument : Document :=
  .array [.object [(.ofString "A", .object (unusualExtra :: unusualFields))]]

lemma isWritten_unusualMethod : unusualMethod.IsWritten unusualMethodDocument := by
  have hgiven : Given (Argument.written ⟨"x", some "int", true, none⟩)
      [(.ofString "name", .text "x"), (.ofString "type", .text "int"),
        (.ofString "isOptional", .bool true)] :=
    .give (StringBody.spells_ofString _) (writes_name _) <|
    .give (StringBody.spells_ofString _) (writes_text _ _) <|
    .give (StringBody.spells_ofString _) (writes_flag _ _) <| .leave rfl .nil
  have hargument := WritesRecord.object hgiven (List.forall_mem_nil _) (.swap _ _ _)
  exact .array <| .cons (writes_name _) <| .cons (writes_text _ _) <|
    .cons (.inl ⟨_, rfl, .cons hargument .nil⟩) <| .nil (List.forall_mem_singleton.mpr rfl)

lemma isWritten_unusualDocument : unusual.IsWritten unusualDocument := by
  have hgiven : Given unusualClass.written unusualFields :=
    .give (StringBody.spells_ofString _) (.inr ⟨rfl, rfl⟩) <| .leave rfl <| .leave rfl <|
    .give (StringBody.spells_ofString _) (.inl ⟨_, rfl, _, rfl, spells_unusualBase⟩) <|
    .leave rfl <| .leave rfl <| .leave rfl <|
    .give (StringBody.spells_ofString _) (.inl ⟨_, rfl, .cons isWritten_unusualMethod .nil⟩) .nil
  have hunknown : ∀ m ∈ [unusualExtra], IsUnknown unusualClass.written m :=
    List.forall_mem_singleton.mpr ⟨"extra", StringBody.spells_ofString _, by decide⟩
  have hclass : unusualClass.IsWritten (.object (unusualExtra :: unusualFields)) :=
    .object hgiven hunknown (List.perm_append_singleton _ _).symm
  exact .array <| .cons (.inl ⟨_, rfl, .cons ⟨StringBody.spells_ofString _, hclass⟩ .nil⟩) <|
    .nil (List.forall_mem_nil _)

/-- The text of the document with a blank in front of every token. -/
def unusualText : Text :=
  " [ \x7b \"A\" : \x7b \"extra\" : [ \"\\ud800\" , -0.5 ] , \"name\" : null ,".toList ++
    " \"superClass\" : \"\\u0042\" , \"instanceMethods\" : [ [ \"f\" , null ,".toList ++
    " [ \x7b \"type\" : \"int\" , \"name\" : \"x\" , \"isOptional\" : true \x7d ] ] ]".toList ++
    " \x7d \x7d ]".toList

lemma spaced_unusualText : Spaced unusualDocument.tokens unusualText := by
  have htext : unusualText = unusualDocument.tokens.flatMap ([' '] ++ ·) := by decide +kernel
  rw [htext]
  exact .flatMap_append (List.forall_mem_singleton.mpr rfl) _

/-- Metadata survives being written with every key and read back. -/
theorem ofStream_toJson (m : Metadata) (origin : Text) :
    ofStream origin (utf8 m.toJson) = (.ok m, ByteArray.empty) :=
  ofStream_utf8 (ofJson_of_isWritten m.isWritten_document (Spaced.flatten _)) origin

/-- However metadata is written, it is read as the same. -/
theorem ofStream_of_isWritten {m : Metadata} {d : Document} {t : Text} (h : m.IsWritten d)
    (ht : Spaced d.tokens t) (origin : Text) :
    ofStream origin (utf8 t) = (.ok m, ByteArray.empty) :=
  ofStream_utf8 (ofJson_of_isWritten h ht) origin

theorem ofStream_of_isWritten_unusual :
    unusual.IsWritten unusualDocument ∧ Spaced unusualDocument.tokens unusualText ∧
      ofStream "<stdin>".toList (utf8 unusualText) = (.ok unusual, ByteArray.empty) :=
  ⟨isWritten_unusualDocument, spaced_unusualText,
    ofStream_of_isWritten isWritten_unusualDocument spaced_unusualText _⟩

end Metadata

end AmbientDecls
