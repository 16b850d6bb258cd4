import AmbientDecls.DocComment

/-!
# Declarations

An ambient module declaration holds class declarations, and these hold groups of member
declarations. Each has its documentation comment. The raw document puts one tab before the lines
of a member, one empty line between two classes, and one between two groups of members.
-/

namespace AmbientDecls

/-- A property or a method: its comment and the line that declares it. -/
structure MemberDecl where
  comment : DocComment
  signature : Text

/-- A class: its comment, the line that opens it, and its groups of members. -/
structure ClassDecl where
  comment : DocComment
  header : Text
  groups : List (List MemberDecl)

structure ModuleDecl where
  name : String
  classes : List ClassDecl

/-- The blocks one after another, with an empty line between each two. -/
def spaced : List (List Text) → List Text
  | [] => []
  | [block] => block
  | block :: next :: rest => block ++ [] :: spaced (next :: rest)

def MemberDecl.lines (m : MemberDecl) : List Text :=
  m.comment.render ['\t'] ++ ['\t' :: m.signature]

def ClassDecl.lines (c : ClassDecl) : List Text :=
  c.comment.render [] ++ c.header :: spaced (c.groups.map (·.flatMap MemberDecl.lines)) ++ [['}']]

def ModuleDecl.header (m : ModuleDecl) : Text :=
  "declare module ".toList ++ m.name.toList ++ " \x7b".toList

def ModuleDecl.lines (m : ModuleDecl) : List Text :=
  m.header :: spaced (m.classes.map ClassDecl.lines) ++ [['}']]

/-- The raw document. -/
def ModuleDecl.text (m : ModuleDecl) : Text := Text.unlines m.lines

end AmbientDecls
