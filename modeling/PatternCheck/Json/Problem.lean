import PatternCheck.Shape.Basic
import PatternCheck.Text.Quoted

/-
What can be wrong with the text of a JSON document, and the place where
it shows. A place is the number of bytes before it; for the reader of a
message it is given as a line and a column.
-/

namespace PatternCheck

/-- What was found, in the words of a report on a document. -/
def Found.inDocument : Found → String
  | null => "null"
  | boolean b => s!"boolean `{b}`"
  | unsigned n => s!"integer `{n}`"
  | signed i => s!"integer `{i}`"
  | float shown => s!"floating point `{shown}`"
  | text s => "string " ++ Text.quoted s
  | list => "sequence"
  | table => "map"

/-- A mismatch, in the words of a report on a document. -/
def Mismatch.inDocument : Mismatch → String
  | kind found expected =>
    s!"invalid type: {found.inDocument}, expected {expected}"
  | value found expected =>
    s!"invalid value: {found.inDocument}, expected {expected}"
  | length found expected => s!"invalid length {found}, expected {expected}"
  | unknownName found names => s!"unknown variant `{found}`, {oneOf names}"
  | missing member => s!"missing field `{member}`"
  | duplicate member => s!"duplicate field `{member}`"
  | badAddress => "invalid socket address syntax"

namespace Json

/-- Why the text of a document is refused. -/
inductive Cause where
  -- the text ends too early
  | valueUnfinished
  | listUnfinished
  | objectUnfinished
  | stringUnfinished
  -- something else is expected
  | valueExpected
  | wordExpected
  | keyExpected
  | colonExpected
  | listEndExpected
  | objectEndExpected
  | commaTrailing
  | textTrailing
  -- numbers
  | numberInvalid
  | numberRange
  -- strings
  | escapeInvalid
  | surrogateAlone
  | surrogateUnfinished
  | controlCharacter
  | encodingInvalid
  -- what the text says
  | tooDeep
  | mismatch (m : Mismatch)
deriving Repr, DecidableEq, Inhabited

namespace Cause

/-- The cause in words. -/
def message : Cause → String
  | valueUnfinished => "EOF while parsing a value"
  | listUnfinished => "EOF while parsing a list"
  | objectUnfinished => "EOF while parsing an object"
  | stringUnfinished => "EOF while parsing a string"
  | valueExpected => "expected value"
  | wordExpected => "expected ident"
  | keyExpected => "key must be a string"
  | colonExpected => "expected `:`"
  | listEndExpected => "expected `,` or `]`"
  | objectEndExpected => "expected `,` or `\x7d`"
  | commaTrailing => "trailing comma"
  | textTrailing => "trailing characters"
  | numberInvalid => "invalid number"
  | numberRange => "number out of range"
  | escapeInvalid => "invalid escape"
  | surrogateAlone => "lone leading surrogate in hex escape"
  | surrogateUnfinished => "unexpected end of hex escape"
  | controlCharacter =>
    "control character (\\u0000-\\u001F) found while parsing a string"
  | encodingInvalid => "invalid unicode code point"
  | tooDeep => "recursion limit exceeded"
  | mismatch m => m.inDocument

end Cause

/-- A cause and the number of bytes before the place where it shows. -/
structure Problem where
  cause : Cause
  pos : Nat
deriving Repr, DecidableEq, Inhabited

namespace Problem

/-- The bytes of a line feed. -/
def lineFeed : UInt8 := '\n'.toUInt8

/-- The number of the line in which a text ends. -/
def line (before : List UInt8) : Nat := before.count lineFeed + 1

/-- The number of bytes in the last line of a text. -/
def column (before : List UInt8) : Nat :=
  (before.reverse.takeWhile (· != lineFeed)).length

/-- The problem in words, for the bytes in which it shows. -/
def message (p : Problem) (bytes : List UInt8) : String :=
  let before := bytes.take p.pos
  s!"{p.cause.message} at line {line before} column {column before}"

end Problem

end Json

end PatternCheck
