import PatternCheck.Unicode.Trait

/-
Texts in quotation marks, as reports show them: so that each one is on a
single line and can be told from every other, whatever characters it has.
A reader gets the text back by undoing the escapes.
-/

namespace PatternCheck.Text

open Unicode (CodeSet Trait.graphemeExtend Category.other Category.separator)

/-- The characters that are shown by their number: those without an image
of their own, blanks other than the space, and marks that would join what
stands before them. -/
def hidden : CodeSet :=
  Category.other ++ Category.separator ++ Trait.graphemeExtend

/-- A natural number in hexadecimal digits. -/
def hex (n : Nat) : List Char := Nat.toDigits 16 n

/-- A character by its number. -/
def numbered (c : Char) : List Char :=
  ['\\', 'u', '\x7b'] ++ hex c.toNat ++ ['\x7d']

/-- A character between quotation marks. -/
def quotedChar (c : Char) : List Char :=
  if c = '\x00' then ['\\', '0']
  else if c = '\t' then ['\\', 't']
  else if c = '\n' then ['\\', 'n']
  else if c = '\r' then ['\\', 'r']
  else if c = '"' then ['\\', '"']
  else if c = '\\' then ['\\', '\\']
  else if c.toNat < 0x7F && 0x20 ≤ c.toNat then [c]
  else if hidden.contains c.toNat then numbered c
  else [c]

/-- A text in quotation marks. -/
def quoted (s : String) : String :=
  String.ofList ('"' :: s.toList.flatMap quotedChar ++ ['"'])

end PatternCheck.Text
