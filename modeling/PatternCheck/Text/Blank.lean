/-
Blank characters: those with the Unicode property White_Space. They
separate the parts of a pattern in verbose mode, and they are what is
trimmed from the ends of a line.
-/

namespace PatternCheck.Text

/-- Whether a character is white space. -/
def isBlank (c : Char) : Bool :=
  let n := c.toNat
  n = 0x20 || (0x9 ≤ n && n ≤ 0xD) || n = 0x85 || n = 0xA0 || n = 0x1680
    || (0x2000 ≤ n && n ≤ 0x200A) || n = 0x2028 || n = 0x2029 || n = 0x202F
    || n = 0x205F || n = 0x3000

/-- A text without the blanks at its ends. -/
def trim (cs : List Char) : List Char :=
  ((cs.dropWhile isBlank).reverse.dropWhile isBlank).reverse

/-- The lines of a text: a line ends at a line feed, which is not part of
it, and neither is a carriage return just before. A text that ends in a
line feed has no further line after it. -/
def lines (cs : List Char) : List (List Char) :=
  go [] cs
where
  /-- `line` is the current line, latest character first. -/
  go (line : List Char) : List Char → List (List Char)
    | [] => if line.isEmpty then [] else [line.reverse]
    | c :: rest =>
      if c = '\n' then (dropReturn line).reverse :: go [] rest
      else go (c :: line) rest
  /-- Takes one carriage return from the end of a reversed line. -/
  dropReturn : List Char → List Char
    | '\r' :: line => line
    | line => line

end PatternCheck.Text
