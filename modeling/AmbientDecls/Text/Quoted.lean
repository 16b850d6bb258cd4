import AmbientDecls.Text.Basic
import AmbientDecls.Text.Printable

/-!
# Quoted texts

A text is shown between double quotes where its end and its invisible characters must be seen.
Quotes, backslashes and the common controls are written with a backslash; any other character that
is not printable is written as its code point.
-/

namespace AmbientDecls.Text

/-- The code point of a character in lower-case hexadecimal digits. -/
def hexadecimal (c : Char) : Text := Nat.toDigits 16 c.toNat

/-- One character as it is shown between quotes. -/
def quoteChar (c : Char) : Text :=
  if c = '"' then ['\\', '"']
  else if c = '\\' then ['\\', '\\']
  else if c = '\n' then ['\\', 'n']
  else if c = '\r' then ['\\', 'r']
  else if c = '\t' then ['\\', 't']
  else if c.toNat = 0 then ['\\', '0']
  else if isPrintable c then [c]
  else ['\\', 'u', '\x7b'] ++ hexadecimal c ++ ['\x7d']

/-- The text between double quotes. -/
def quote (t : Text) : Text := '"' :: t.flatMap quoteChar ++ ['"']

end AmbientDecls.Text
