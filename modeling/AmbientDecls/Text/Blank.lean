import AmbientDecls.Text.Basic

/-!
# White space

Blank characters are those with the Unicode property `White_Space`. Trimming removes them at both
ends of a text, and the words of a text are its runs of other characters.
-/

namespace AmbientDecls.Text

/-- The characters with the Unicode property `White_Space`: the controls from tab to carriage
return, the space, and the separators of the other blocks. -/
def isBlank (c : Char) : Bool :=
  let n := c.toNat
  (0x09 ≤ n && n ≤ 0x0D) || n == 0x20 || n == 0x85 || n == 0xA0 || n == 0x1680 ||
    (0x2000 ≤ n && n ≤ 0x200A) || n == 0x2028 || n == 0x2029 || n == 0x202F || n == 0x205F ||
    n == 0x3000

/-- The text from its first character that is not blank. -/
def trimStart (t : Text) : Text := t.dropWhile isBlank

/-- The text up to its last character that is not blank. -/
def trimEnd (t : Text) : Text :=
  t.foldr (fun c rest => if isBlank c && rest.isEmpty then [] else c :: rest) []

/-- The text without the blank characters at its two ends. -/
def trim (t : Text) : Text := t.trimStart.trimEnd

/-- The maximal runs of characters that are not blank, in order. -/
def words (t : Text) : List Text := (t.split isBlank).filter (! ·.isEmpty)

end AmbientDecls.Text
