/-!
# Texts

A text is the list of its characters. This file holds what every other module needs of texts:
splitting at separators, putting pieces together again, searching for a part, and the size in
bytes that positions are counted in.
-/

namespace AmbientDecls

/-- A piece of text, one entry per character. -/
abbrev Text := List Char

namespace Text

/-- The pieces between the characters that satisfy `isSeparator`; there is always one more piece
than there are separators. -/
def split (isSeparator : Char → Bool) (t : Text) : List Text :=
  t.foldr
    (fun c pieces =>
      if isSeparator c then [] :: pieces
      else match pieces with
        | [] => [[c]]
        | piece :: rest => (c :: piece) :: rest)
    [[]]

@[simp] theorem split_nil (p : Char → Bool) : split p [] = [[]] := rfl

theorem split_ne_nil (p : Char → Bool) (t : Text) : split p t ≠ [] := by
  cases t with
  | nil => simp
  | cons c t =>
    simp only [split, List.foldr_cons]
    split
    · simp
    · split <;> simp

/-- A separator opens a new piece. -/
theorem split_cons_of_pos {p : Char → Bool} {c : Char} (h : p c = true) (t : Text) :
    split p (c :: t) = [] :: split p t := by
  simp [split, h]

/-- Any other character extends the first piece. -/
theorem split_cons_of_neg {p : Char → Bool} {c : Char} (h : p c = false) {t : Text}
    {piece : Text} {rest : List Text} (ht : split p t = piece :: rest) :
    split p (c :: t) = (c :: piece) :: rest := by
  simp only [split] at ht
  simp [split, h, ht]

/-- The lines of a text, without their terminators. A text that ends in a terminator has an empty
last line. -/
def lines (t : Text) : List Text := t.split (· == '\n')

/-- Every line followed by a terminator. -/
def unlines (ls : List Text) : Text := ls.flatMap (· ++ ['\n'])

@[simp] theorem unlines_nil : unlines [] = [] := rfl

@[simp] theorem unlines_cons (l : Text) (ls : List Text) :
    unlines (l :: ls) = l ++ '\n' :: unlines ls := by
  simp [unlines]

@[simp] theorem unlines_append (ls ms : List Text) :
    unlines (ls ++ ms) = unlines ls ++ unlines ms := by
  simp [unlines]

/-- The pieces with `separator` between each two. -/
def join (separator : Text) : List Text → Text
  | [] => []
  | [t] => t
  | t :: u :: rest => t ++ separator ++ join separator (u :: rest)

/-- Whether `part` stands somewhere in the text. -/
def includes (part : Text) : Text → Bool
  | [] => part.isEmpty
  | c :: rest => part.isPrefixOf (c :: rest) || includes part rest

/-- The text without one carriage return at its end, if it has one. -/
def dropReturn (t : Text) : Text :=
  if t.getLast? = some '\r' then t.dropLast else t

/-- The number of bytes of the text's UTF-8 form. -/
def byteSize (t : Text) : Nat := t.foldl (fun n c => n + c.utf8Size) 0

/-- Whether a text comes before another, character by character. -/
def comesBefore (a b : Text) : Bool := List.lex a b fun c d => c < d

end Text

end AmbientDecls
