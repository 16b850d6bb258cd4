import AmbientDecls.Declaration.Basic
import AmbientDecls.Signature.Grouping

/-!
# Declarations of documented classes

What is declared for a property, a method, a class and a whole metadata table. A type token in a
comment is never grouped and never takes the aliases of parameters; the signature has both.
-/

namespace AmbientDecls

/-- Whether a member is one of the class itself or of its instances. -/
inductive Owner where
  | classItself
  | instances
deriving DecidableEq, Repr, Inhabited

/-- What stands before the name of a member. -/
def Owner.modifier : Owner → Text
  | classItself => "static ".toList
  | instances => []

/-- The text before the first closing brace, if that brace comes before the end of the line. -/
def upToBrace : Text → Option Text
  | [] => none
  | c :: rest =>
    if c = '}' then some []
    else if c = '\n' then none
    else (upToBrace rest).map (c :: ·)

/-- The type token of a summary: what stands between the first opening brace that is closed on
its own line and the next closing brace. -/
def summaryType : Text → Option Text
  | [] => none
  | c :: rest =>
    if c = '{' then
      match upToBrace rest with
      | some token => some token
      | none => summaryType rest
    else summaryType rest

/-- A documentation entry: the tag, the type between braces unless there is none, and the
description unless there is none. -/
def tagLine (tag : String) (type description : Option String) : String :=
  let typed := match type.getD "" with
    | "" => ""
    | token => " \x7b" ++ mapType (some token) .other ++ "\x7d"
  let described := match description.getD "" with
    | "" => ""
    | text => " " ++ text
  tag ++ typed ++ described

/-- The distinct declared types of the return values that have one, in order. -/
def returnTypes (returns : List ReturnValue) : List String :=
  ((returns.filterMap (·.type)).filter (· ≠ "")).map (fun token => mapType (some token) .other)
    |>.eraseDups

/-- The declared return type: nothing documented is `void`, nothing typed is `any`, and otherwise
it is the union of the documented types. -/
def returnType (returns : List ReturnValue) : Text :=
  if returns.isEmpty then "void".toList
  else match returnTypes returns with
    | [] => "any".toList
    | types => Text.join " | ".toList (types.map String.toList)

def Property.declaration (p : Property) (owner : Owner) : MemberDecl where
  comment := DocComment.text? {} p.description
  signature :=
    let token := (p.summary.bind fun s => summaryType s.toList).map String.ofList
    owner.modifier ++ p.name.toList ++ ": ".toList ++ (mapType token .other).toList ++ [';']

/-- The comment of a method: its description, an entry for every argument, and one for every
return value. -/
def Method.comment (m : Method) : DocComment :=
  let described := DocComment.text? {} m.description
  let withParams := m.arguments.foldl
    (fun d a => d.text (tagLine "@param" a.type a.description).toList) described
  m.returnValues.foldl
    (fun d r => d.text (tagLine "@returns" r.type r.description).toList) withParams

/-- Whether the method is the constructor, which is declared without a return type. -/
def Method.isConstructor (m : Method) : Bool := m.name == "constructor"

def Method.declaration (m : Method) (owner : Owner) : MemberDecl where
  comment := m.comment
  signature :=
    owner.modifier ++ m.name.toList ++ '(' ::
      TypeExpr.textOfParams (groupArguments m.arguments) ++ ')' ::
      (if m.isConstructor then [] else ": ".toList ++ returnType m.returnValues) ++ [';']

/-- How a module is declared: its name, and the superclass that every class has anyway and that is
never written. -/
structure ModuleOptions where
  name : String := "AtomTypes"
  implicitBase : String := "Model"
deriving DecidableEq, Repr, Inhabited

/-- The superclass that a class declaration names, if any. -/
def ClassDoc.declaredBase (c : ClassDoc) (options : ModuleOptions) : Option String :=
  c.superClass.filter fun base => base ≠ "" && base ≠ options.implicitBase

/-- The comment of a class: its description and the file it was documented in. -/
def ClassDoc.comment (c : ClassDoc) : DocComment :=
  let described := match c.description.getD "" with
    | "" => {}
    | text => (DocComment.text {} text.toList).blank
  match c.filename with
  | none => described
  | some filename => described.line ("file: ".toList ++ filename.toList)

def ClassDoc.header (c : ClassDoc) (key : String) (options : ModuleOptions) : Text :=
  "class ".toList ++ (c.displayName key).toList ++
    (match c.declaredBase options with
      | none => []
      | some base => " extends ".toList ++ base.toList) ++
    " \x7b".toList

/-- The members of a class in four groups: the properties and then the methods, of the class
before those of its instances. -/
def ClassDoc.memberGroups (c : ClassDoc) : List (List MemberDecl) :=
  [c.classProperties.map (·.declaration .classItself),
    c.instanceProperties.map (·.declaration .instances),
    c.classMethods.map (·.declaration .classItself),
    c.instanceMethods.map (·.declaration .instances)]

/-- The declaration of a class; groups without members leave no trace. -/
def ClassDoc.declaration (c : ClassDoc) (key : String) (options : ModuleOptions) : ClassDecl where
  comment := c.comment
  header := c.header key options
  groups := c.memberGroups.filter (! ·.isEmpty)

/-- The module that declares every class of the table, in its order. -/
def Metadata.declaration (m : Metadata) (options : ModuleOptions) : ModuleDecl where
  name := options.name
  classes := m.classes.entries.map fun (key, c) => c.declaration key options

end AmbientDecls
