import PatternCheck.Toml.Value

/-
The values of a TOML document that have no parts: strings in four forms,
numbers, truth values, dates and times; and what stands between values:
blanks, comments and the ends of lines.
-/

namespace PatternCheck.Toml

open Text (Scan)
open Decimal (Floating)

-- ============================================================ separators

/-- Past spaces and tabs. -/
def blanks : Scan Unit := do
  let _ ← Scan.span fun c => c = ' ' || c = '\t'

/-- Past the end of a line. -/
def newline : Scan Unit := Scan.char '\n' <|> Scan.exactly "\r\n"

/-- Whether a character may stand in a comment. -/
def isPlain (c : Char) : Bool := c = '\t' || (' ' ≤ c && c ≠ '\x7f')

/-- Past a comment. -/
def comment : Scan Unit := do
  Scan.char '#'
  let _ ← Scan.span isPlain

/-- Past the end of a line or of the document. -/
def lineEnd : Scan Unit := do
  if ← Scan.atEnd then return
  newline

/-- Past what may stand after a complete line. -/
def trailing : Scan Unit := do
  blanks
  let _ ← Scan.maybe comment
  lineEnd

/-- Past the ends of lines, comments and blanks. -/
def emptyLines : Scan Unit := do
  let line : Scan Unit := do
    blanks
    let _ ← Scan.maybe comment
    newline
  let _ ← Scan.many line
  blanks
  if ← Scan.comes (Scan.char '#') then failure

-- =============================================================== strings

/-- The character with a number, which must be one. -/
def numberedChar (digits : Nat) : Scan Char := fun cs =>
  let ds := cs.take digits
  let value := Decimal.digitsValue 16 ds
  if ds.length = digits && ds.all (Decimal.isDigit 16)
      && value.isValidChar then
    some (Char.ofNat value, cs.drop digits)
  else none

/-- A character after a backslash. -/
def escape : Scan Char := do
  match ← Scan.any with
  | 'b' => return '\x08'
  | 't' => return '\t'
  | 'n' => return '\n'
  | 'f' => return '\x0c'
  | 'r' => return '\r'
  | '"' => return '"'
  | '\\' => return '\\'
  | 'u' => numberedChar 4
  | 'U' => numberedChar 8
  | _ => failure

/-- An escaped character. -/
def escaped : Scan Char := do
  Scan.char '\\'
  escape

/-- A string on one line, in quotation marks. -/
def basicString : Scan String := do
  Scan.char '"'
  let cs ←
    Scan.many (escaped <|> Scan.one fun c => isPlain c && c ≠ '"' && c ≠ '\\')
  Scan.char '"'
  return String.ofList cs

/-- A string on one line, in apostrophes, without escapes. -/
def literalString : Scan String := do
  Scan.char '\''
  let cs ← Scan.span fun c => isPlain c && c ≠ '\''
  Scan.char '\''
  return String.ofList cs

/-- The end of a line as a character. -/
def lineFeed : Scan (List Char) := do
  newline
  return ['\n']

/-- A backslash before the end of a line: that and all blanks after it do
not count. -/
def continuation : Scan (List Char) := do
  Scan.char '\\'
  blanks
  newline
  let _ ← Scan.many (newline <|> Scan.char ' ' <|> Scan.char '\t')
  return []

/-- One or two quotation marks that do not end a string: another character
follows them. -/
def fewMarks (mark : Char) : Scan (List Char) := do
  let marks ← Scan.someSpan (· = mark)
  if 2 < marks.length then failure
  return marks

/-- The quotation marks at the end of a string: the last three of them end
it, and up to two before them belong to it. -/
def closingMarks (mark : Char) : Scan (List Char) := fun cs =>
  let n := (cs.takeWhile (· = mark)).length
  if n < 3 then none
  else
    let inside := min 2 (n - 3)
    some (List.replicate inside mark, cs.drop (inside + 3))

/-- A string on several lines, between three quotation marks of a kind. -/
def longString (mark : Char) (part : Scan (List Char)) : Scan String := do
  Scan.exactly (String.ofList [mark, mark, mark])
  let _ ← Scan.maybe newline
  let parts ← Scan.many (part <|> fewMarks mark)
  let last ← closingMarks mark
  return String.ofList (parts.flatten ++ last)

/-- A character as a list of one. -/
def single (s : Scan Char) : Scan (List Char) := do return [← s]

/-- A string on several lines, with escapes. -/
def longBasicString : Scan String :=
  longString '"' <|
    single (Scan.one fun c => isPlain c && c ≠ '"' && c ≠ '\\')
      <|> single escaped <|> continuation <|> lineFeed

/-- A string on several lines, without escapes. -/
def longLiteralString : Scan String :=
  longString '\'' <| single (Scan.one fun c => isPlain c && c ≠ '\'')
    <|> lineFeed

/-- A string. -/
def string : Scan String := do
  if ← Scan.comes (Scan.exactly "\"\"\"") then longBasicString
  else if ← Scan.comes (Scan.exactly "'''") then longLiteralString
  else basicString <|> literalString

-- =============================================================== numbers

/-- Digits of some kind, with single underscores between them. -/
def groupedDigits (isDigit : Char → Bool) : Scan (List Char) := do
  let first ← Scan.someSpan isDigit
  let more ← Scan.many (do
    Scan.char '_'
    Scan.someSpan isDigit)
  if ← Scan.comes (Scan.char '_') then failure
  return first ++ more.flatten

/-- Decimal digits without leading zeros. -/
def wholeDigits : Scan (List Char) := do
  let ds ← groupedDigits Char.isDigit
  if ds.head? == some '0' && 1 < ds.length then failure
  return ds

/-- A sign that may be missing. -/
def signText : Scan (List Char) := do
  match ← Scan.maybe (Scan.one fun c => c = '+' || c = '-') with
  | some c => return [c]
  | none => return []

/-- A fraction. -/
def fractionText : Scan (List Char) := do
  Scan.char '.'
  return '.' :: (← groupedDigits Char.isDigit)

/-- An exponent. -/
def exponentText : Scan (List Char) := do
  let e ← Scan.one fun c => c = 'e' || c = 'E'
  return e :: (← signText) ++ (← groupedDigits Char.isDigit)

/-- A number with a fraction or an exponent; one that is too large is none,
unless it is negative. -/
def decimalFloat : Scan Floating := do
  let whole := (← signText) ++ (← wholeDigits)
  let part ← Scan.maybe fractionText
  let exponent ← Scan.maybe exponentText
  if part.isNone && exponent.isNone then failure
  match Floating.ofChars? (whole ++ part.getD [] ++ exponent.getD []) with
  | some f => if f = .infinite false then failure else return f
  | none => failure

/-- An infinity, or what is no number. -/
def namedFloat : Scan Floating := do
  let isNegative := (← signText) == ['-']
  let infinity : Scan Floating := do
    Scan.exactly "inf"
    return .infinite isNegative
  let nan : Scan Floating := do
    Scan.exactly "nan"
    return .nan
  infinity <|> nan

/-- An integer that can be held in 64 bits. -/
def inRange (i : Int) : Scan Value :=
  if Int64.minValue.toInt ≤ i && i ≤ Int64.maxValue.toInt then
    return .integer i
  else failure

/-- An integer in some base, after a mark. -/
def basedInteger (mark : String) (base : Nat) : Scan Value := do
  Scan.exactly mark
  let ds ← groupedDigits (Decimal.isDigit base)
  inRange (Decimal.digitsValue base ds)

/-- An integer in decimal digits. -/
def decimalInteger : Scan Value := do
  let sign ← signText
  let n : Int := Decimal.digitsValue 10 (← wholeDigits)
  inRange (if sign == ['-'] then -n else n)

/-- An integer. -/
def integer : Scan Value :=
  basedInteger "0x" 16 <|> basedInteger "0o" 8 <|> basedInteger "0b" 2
    <|> decimalInteger

-- ======================================================= dates and times

/-- So many digits, as a number within bounds. -/
def field (digits low high : Nat) : Scan Nat := fun cs =>
  let ds := cs.take digits
  let n := Decimal.digitsValue 10 ds
  if ds.length = digits && ds.all Char.isDigit && low ≤ n && n ≤ high then
    some (n, cs.drop digits)
  else none

/-- Whether a year has a day more. -/
def isLeap (year : Nat) : Bool :=
  year % 4 = 0 && (year % 100 ≠ 0 || year % 400 = 0)

/-- How many days a month has. -/
def daysIn (year month : Nat) : Nat :=
  if month = 2 then (if isLeap year then 29 else 28)
  else if month = 4 || month = 6 || month = 9 || month = 11 then 30 else 31

/-- A date. -/
def date : Scan Unit := do
  let year ← field 4 0 9999
  Scan.char '-'
  let month ← field 2 1 12
  Scan.char '-'
  let _ ← field 2 1 (daysIn year month)

/-- A time of day. -/
def time : Scan Unit := do
  let _ ← field 2 0 23
  Scan.char ':'
  let _ ← field 2 0 59
  Scan.char ':'
  let _ ← field 2 0 60
  let _ ← Scan.maybe (do
    Scan.char '.'
    Scan.someSpan Char.isDigit)

/-- A distance from universal time. -/
def timeOffset : Scan Unit := do
  match ← Scan.one fun c => c = 'Z' || c = 'z' || c = '+' || c = '-' with
  | 'Z' => return
  | 'z' => return
  | _ =>
    let _ ← field 2 0 23
    Scan.char ':'
    let _ ← field 2 0 59

/-- A time after a date. -/
def timeOfDate : Scan Unit := do
  let _ ← Scan.one fun c => c = 'T' || c = 't' || c = ' '
  time
  let _ ← Scan.maybe timeOffset

/-- A date, with or without a time, or a time. -/
def moment : Scan Unit :=
  (do
    date
    let _ ← Scan.maybe timeOfDate) <|> time

/-- The key of the only member of a date or time. -/
def momentKey : String := "$__toml_private_datetime"

/-- A date or a time, by its text. -/
def momentValue : Scan Value := fun cs =>
  (moment cs).map fun (_, rest) =>
    (.table [(momentKey,
      .string (String.ofList (cs.take (cs.length - rest.length))))], rest)

/-- A truth value. -/
def boolean : Scan Value := do
  if (← Scan.maybe (Scan.exactly "true")).isSome then return .boolean true
  Scan.exactly "false"
  return .boolean false

/-- A value without parts. -/
def scalar : Scan Value := do
  let text : Scan Value := do return .string (← string)
  let float : Scan Value := do return .float (← decimalFloat)
  let named : Scan Value := do return .float (← namedFloat)
  match ← Scan.peek with
  | some '"' => text
  | some '\'' => text
  | some 't' => boolean
  | some 'f' => boolean
  | _ => momentValue <|> float <|> named <|> integer

end PatternCheck.Toml
