import AmbientDecls.Json.Record
import AmbientDecls.Metadata.Basic

/-!
# Metadata as JSON

The written form of metadata: the keys of each record in their order, which of them are required,
and which may be `null`. Only the names of properties, methods and arguments are required; every
other field may be left out or `null` and then has its default.
-/

namespace AmbientDecls

open Json

/-- A field for an optional text. -/
def Json.Field.text {σ : Type} (key : String) (set : Option String → σ → σ) : Field σ :=
  ⟨key, (Reader.optional .string).map set, false⟩

/-- A field that has a default, which `null` stands for as well. -/
def Json.Field.defaulted {σ α : Type} (key : String) (default : α) (read : Reader α)
    (set : α → σ → σ) : Field σ :=
  ⟨key, (Reader.nullable default read).map set, false⟩

/-- A field for a name that must be given. -/
def Json.Field.requiredName {σ : Type} (set : String → σ → σ) : Field σ :=
  ⟨"name", Reader.string.map set, true⟩

def Argument.schema : Schema Argument where
  name := "Argument"
  empty := ⟨"", none, false, none⟩
  fields := [
    .requiredName fun v a => { a with name := v },
    .text "type" fun v a => { a with type := v },
    .defaulted "isOptional" false .bool fun v a => { a with isOptional := v },
    .text "description" fun v a => { a with description := v }]

/-- The written form of return values. -/
def ReturnValue.schema : Schema ReturnValue where
  name := "ReturnValue"
  empty := ⟨none, none⟩
  fields := [
    .text "type" fun v r => { r with type := v },
    .text "description" fun v r => { r with description := v }]

def Method.schema : Schema Method where
  name := "Method"
  empty := ⟨"", none, [], []⟩
  fields := [
    .requiredName fun v m => { m with name := v },
    .text "description" fun v m => { m with description := v },
    .defaulted "arguments" [] (.list Argument.schema.reader) fun v m => { m with arguments := v },
    .defaulted "returnValues" [] (.list ReturnValue.schema.reader)
      fun v m => { m with returnValues := v }]

/-- The written form of properties. -/
def Property.schema : Schema Property where
  name := "Property"
  empty := ⟨"", none, none⟩
  fields := [
    .requiredName fun v p => { p with name := v },
    .text "description" fun v p => { p with description := v },
    .text "summary" fun v p => { p with summary := v }]

/-- The written form of classes. -/
def ClassDoc.schema : Schema ClassDoc where
  name := "ClassInfo"
  empty := {}
  fields := [
    .defaulted "name" "" .string fun v c => { c with name := v },
    .text "description" fun v c => { c with description := v },
    .text "filename" fun v c => { c with filename := v },
    .text "superClass" fun v c => { c with superClass := v },
    .defaulted "classProperties" [] (.list Property.schema.reader)
      fun v c => { c with classProperties := v },
    .defaulted "instanceProperties" [] (.list Property.schema.reader)
      fun v c => { c with instanceProperties := v },
    .defaulted "classMethods" [] (.list Method.schema.reader)
      fun v c => { c with classMethods := v },
    .defaulted "instanceMethods" [] (.list Method.schema.reader)
      fun v c => { c with instanceMethods := v }]

def Metadata.schema : Schema Metadata where
  name := "Metadata"
  empty := {}
  fields := [
    .defaulted "classes" Table.empty (.table ClassDoc.schema.reader)
      fun v m => { m with classes := v }]

/-- Reads metadata from a whole text; nothing but blanks may follow the value. -/
def Metadata.ofJson (t : Text) : Except Fault Metadata :=
  match Metadata.schema.reader.run t with
  | .error e => .error e
  | .ok (m, rest) =>
    match skipSpace rest with
    | [] => .ok m
    | rest => .error (.within .trailingCharacters rest)

end AmbientDecls
