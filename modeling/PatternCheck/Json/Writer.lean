import PatternCheck.Json.Value

/-
The text of a document, without blanks. In strings only quotation marks,
backslashes and control characters are escaped.
-/

namespace PatternCheck.Json

/-- A character of a string by its number. -/
def unicodeEscape (c : Char) : List Char :=
  let digits := Nat.toDigits 16 c.toNat
  ['\\', 'u'] ++ List.replicate (4 - digits.length) '0' ++ digits

/-- A character of a string. -/
def escapedChar (c : Char) : List Char :=
  if c = '"' then ['\\', '"']
  else if c = '\\' then ['\\', '\\']
  else if c = '\x08' then ['\\', 'b']
  else if c = '\x0c' then ['\\', 'f']
  else if c = '\n' then ['\\', 'n']
  else if c = '\r' then ['\\', 'r']
  else if c = '\t' then ['\\', 't']
  else if c.toNat < 0x20 then unicodeEscape c
  else [c]

/-- The text of a string. -/
def stringChars (s : String) : List Char :=
  '"' :: s.toList.flatMap escapedChar ++ ['"']

/-- Texts with commas between them. -/
def commaSeparated : List (List Char) → List Char
  | [] => []
  | [a] => a
  | a :: rest => a ++ ',' :: commaSeparated rest

/-- The text of a number. -/
def Number.render : Number → String
  | natural n => toString n
  | negative n => s!"-{n}"
  | decimal isNegative s e => decimalText isNegative s e

mutual

/-- The text of a document. -/
def Value.chars : Value → List Char
  | .null => "null".toList
  | .bool true => "true".toList
  | .bool false => "false".toList
  | .number n => n.render.toList
  | .string s => stringChars s
  | .array items => '[' :: commaSeparated (itemsChars items) ++ [']']
  | .object members =>
    '\x7b' :: commaSeparated (membersChars members) ++ ['\x7d']

/-- The texts of the items of a list. -/
def itemsChars : List Value → List (List Char)
  | [] => []
  | v :: rest => v.chars :: itemsChars rest

/-- The texts of the members of an object. -/
def membersChars : List (String × Value) → List (List Char)
  | [] => []
  | (key, v) :: rest =>
    (stringChars key ++ ':' :: v.chars) :: membersChars rest

end

/-- The text of a document. -/
def Value.render (v : Value) : String := String.ofList v.chars

end PatternCheck.Json
