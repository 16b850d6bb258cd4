import AmbientDecls.Proofs.Json.Document

/-!
# Forms of documents

A form says what a document has to be: a text, a flag, a list or a table of such, or a record. It
grants leniency field by field: of a record, a field that is not required may be left out or
`null`. Whatever is not granted there is refused at every depth. A document of a form in which one
place is spoiled, such as an element that becomes `null` or a field that is given once more, is no
document of the form (`Form.Spoils.not_allows`).
-/

namespace AmbientDecls.Json

/-- What a document has to be. Of a record, some fields are required, and the others may be left out
or `null`. -/
inductive Form where
  | text
  | flag
  | list (item : Form)
  | table (item : Form)
  | record (required : List String) (fields : List (String × Form))

/-- The document is as the form says. As an object, a record has no field twice; as an array, it has
its fields in order and may end early. -/
inductive Form.Allows : Form → Document → Prop
  | text (b : StringBody) : Allows .text (.string b)
  | flag (b : Bool) : Allows .flag (.bool b)
  | list {item : Form} {ds : List Document} (hitems : ∀ d ∈ ds, Allows item d) :
      Allows (.list item) (.array ds)
  | table {item : Form} {ms : List (StringBody × Document)} (hitems : ∀ m ∈ ms, Allows item m.2) :
      Allows (.table item) (.object ms)
  | object {required : List String} {fields : List (String × Form)}
      {ms : List (StringBody × Document)}
      (hvalues : ∀ m ∈ ms, ∀ f ∈ fields, m.1.Spells f.1 → (m.2 = .null → f.1 ∈ required) →
        Allows f.2 m.2)
      (honce : ms.Pairwise fun m n => ∀ f ∈ fields, m.1.Spells f.1 → ¬n.1.Spells f.1)
      (hgiven : ∀ key ∈ required, ∃ m ∈ ms, m.1.Spells key) :
      Allows (.record required fields) (.object ms)
  | array {required : List String} {fields : List (String × Form)} {ds : List Document}
      (hvalues : ∀ p ∈ fields.zip ds, (p.2 = .null → p.1.1 ∈ required) → Allows p.1.2 p.2)
      (hlength : ds.length ≤ fields.length)
      (hgiven : ∀ f ∈ fields.drop ds.length, f.1 ∉ required) :
      Allows (.record required fields) (.array ds)

lemma Form.not_allows_null (form : Form) : ¬form.Allows .null := nofun

/-! ### Spoiled documents -/

/-- One place of a document of the form is changed: a required field is left out or `null`, a field
is given once more, or an element or an entry is `null`. The place may be at any depth. -/
inductive Form.Spoils : Form → Document → Document → Prop
  | leftOut {required : List String} {fields : List (String × Form)} {g : String × Form}
      {b : StringBody} {d : Document} {before after : List (StringBody × Document)}
      (hg : g ∈ fields) (hrequired : g.1 ∈ required) (hb : b.Spells g.1) :
      Spoils (.record required fields) (.object (before ++ (b, d) :: after))
        (.object (before ++ after))
  | nullField {required : List String} {fields : List (String × Form)} {g : String × Form}
      {b : StringBody} {d : Document} {before after : List (StringBody × Document)}
      (hg : g ∈ fields) (hrequired : g.1 ∈ required) (hb : b.Spells g.1) :
      Spoils (.record required fields) (.object (before ++ (b, d) :: after))
        (.object (before ++ (b, .null) :: after))
  | repeated {required : List String} {fields : List (String × Form)} {g : String × Form}
      {m : StringBody × Document} {b : StringBody} {d : Document}
      {before after : List (StringBody × Document)} (hg : g ∈ fields) (hm : m ∈ before ++ after)
      (hspells : m.1.Spells g.1) (hb : b.Spells g.1) :
      Spoils (.record required fields) (.object (before ++ after))
        (.object (before ++ (b, d) :: after))
  | field {required : List String} {fields : List (String × Form)} {g : String × Form}
      {b : StringBody} {d d' : Document} {before after : List (StringBody × Document)}
      (hg : g ∈ fields) (hb : b.Spells g.1) (hd : Spoils g.2 d d') :
      Spoils (.record required fields) (.object (before ++ (b, d) :: after))
        (.object (before ++ (b, d') :: after))
  | nullElement {item : Form} {d : Document} {before after : List Document} :
      Spoils (.list item) (.array (before ++ d :: after)) (.array (before ++ .null :: after))
  | element {item : Form} {d d' : Document} {before after : List Document}
      (hd : Spoils item d d') :
      Spoils (.list item) (.array (before ++ d :: after)) (.array (before ++ d' :: after))
  | nullEntry {item : Form} {b : StringBody} {d : Document}
      {before after : List (StringBody × Document)} :
      Spoils (.table item) (.object (before ++ (b, d) :: after))
        (.object (before ++ (b, .null) :: after))
  | entry {item : Form} {b : StringBody} {d d' : Document}
      {before after : List (StringBody × Document)} (hd : Spoils item d d') :
      Spoils (.table item) (.object (before ++ (b, d) :: after))
        (.object (before ++ (b, d') :: after))

lemma Form.Spoils.ne_null {form : Form} {d d' : Document} (h : form.Spoils d d') :
    d ≠ .null ∧ d' ≠ .null := by
  cases h
  all_goals exact ⟨nofun, nofun⟩

/-- Of members that give each field at most once, one that gives a field is alone in that. -/
lemma not_spells_of_once {fields : List (String × Form)}
    {before after : List (StringBody × Document)} {m n : StringBody × Document}
    (honce : (before ++ m :: after).Pairwise fun m n =>
      ∀ g ∈ fields, m.1.Spells g.1 → ¬n.1.Spells g.1)
    (hn : n ∈ before ++ after) {g : String × Form} (hg : g ∈ fields) (hm : m.1.Spells g.1) :
    ¬n.1.Spells g.1 := by
  intro hspells
  obtain ⟨-, hafter, hbefore⟩ := List.pairwise_append.mp honce
  rcases List.mem_append.mp hn with hn | hn
  · exact hbefore n hn m List.mem_cons_self g hg hspells hm
  · exact (List.pairwise_cons.mp hafter).1 n hn g hg hm hspells

/-- A document of a form has the form no longer if it is changed at one place. -/
theorem Form.Spoils.not_allows {form : Form} {d d' : Document} (h : form.Spoils d d')
    (hd : form.Allows d) : ¬form.Allows d' := by
  intro hd'
  induction h with
  | leftOut hg hrequired hb =>
    cases hd with
    | object _ honce _ =>
      cases hd' with
      | object _ _ hgiven =>
        obtain ⟨m, hm, hspells⟩ := hgiven _ hrequired
        exact not_spells_of_once honce hm hg hb hspells
  | nullField hg hrequired hb =>
    cases hd' with
    | object hvalues _ _ =>
      have hnull := hvalues _ List.mem_append_cons_self _ hg hb fun _ => hrequired
      exact Form.not_allows_null _ hnull
  | repeated hg hm hspells hb =>
    cases hd' with
    | object _ honce _ => exact not_spells_of_once honce hm hg hb hspells
  | field hg hb hspoils ih =>
    cases hd with
    | object hvalues _ _ =>
      cases hd' with
      | object hvalues' _ _ =>
        -- What is spoiled inside is not `null`, so that no field may be left with it.
        apply ih
        · exact hvalues _ List.mem_append_cons_self _ hg hb fun h => absurd h hspoils.ne_null.1
        · exact hvalues' _ List.mem_append_cons_self _ hg hb fun h => absurd h hspoils.ne_null.2
  | nullElement =>
    cases hd' with
    | list hitems => exact Form.not_allows_null _ (hitems _ List.mem_append_cons_self)
  | element _ ih =>
    cases hd with
    | list hitems =>
      cases hd' with
      | list hitems' =>
        exact ih (hitems _ List.mem_append_cons_self) (hitems' _ List.mem_append_cons_self)
  | nullEntry =>
    cases hd' with
    | table hitems => exact Form.not_allows_null _ (hitems _ List.mem_append_cons_self)
  | entry _ ih =>
    cases hd with
    | table hitems =>
      cases hd' with
      | table hitems' =>
        exact ih (hitems _ List.mem_append_cons_self) (hitems' _ List.mem_append_cons_self)

end AmbientDecls.Json
