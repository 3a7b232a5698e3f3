/-
Why a pattern is refused, and where. The causes are grouped by the part
of the language that raises them; `Cause.message` is the one place that
puts them into words.
-/

namespace PatternCheck.Pattern

/-- A reason to refuse a pattern. -/
inductive Cause where
  -- groups
  | groupUnclosed
  | groupUnopened
  | nameUnclosed
  | nameEmpty
  | nameCharacter
  | nameDuplicate
  | lookAround
  -- flags
  | flagUnknown
  | flagDuplicate
  | flagUnclosed
  | negationDangling
  | negationRepeated
  -- repetition
  | nothingToRepeat
  | countUnclosed
  | countEmpty
  | countInvalid
  | countReversed
  -- escapes
  | escapeUnclosed
  | escapeUnknown
  | backreference
  | hexEmpty
  | hexDigit
  | hexScalar
  | propertySyntax
  | boundaryUnclosed
  | boundaryUnknown
  | boundaryOrCountUnclosed
  -- classes
  | classUnclosed
  | classRangeReversed
  | classRangeBound
  | classEscape
  -- nesting
  | tooDeep (limit : Nat)
  -- meaning
  | unicodeOff
  | invalidUtf8
  | propertyUnknown
  | propertyValueUnknown
deriving Repr, DecidableEq, Inhabited

namespace Cause

/-- The wording of a cause. -/
def message : Cause → String
  | groupUnclosed => "unclosed group"
  | groupUnopened => "unopened group"
  | nameUnclosed => "unclosed capture group name"
  | nameEmpty => "empty capture group name"
  | nameCharacter => "invalid capture group character"
  | nameDuplicate => "duplicate capture group name"
  | lookAround =>
    "look-around, including look-ahead and look-behind, is not supported"
  | flagUnknown => "unrecognized flag"
  | flagDuplicate => "duplicate flag"
  | flagUnclosed => "expected flag but got end of regex"
  | negationDangling => "dangling flag negation operator"
  | negationRepeated => "flag negation operator repeated"
  | nothingToRepeat => "repetition operator missing expression"
  | countUnclosed => "unclosed counted repetition"
  | countEmpty => "repetition quantifier expects a valid decimal"
  | countInvalid => "decimal literal invalid"
  | countReversed =>
    "invalid repetition count range, the start must be <= the end"
  | escapeUnclosed =>
    "incomplete escape sequence, reached end of pattern prematurely"
  | escapeUnknown => "unrecognized escape sequence"
  | backreference => "backreferences are not supported"
  | hexEmpty => "hexadecimal literal empty"
  | hexDigit => "invalid hexadecimal digit"
  | hexScalar => "hexadecimal literal is not a Unicode scalar value"
  | propertySyntax => "invalid Unicode character class"
  | boundaryUnclosed =>
    "special word boundary assertion is either unclosed or contains an "
      ++ "invalid character"
  | boundaryUnknown =>
    "unrecognized special word boundary assertion, valid choices are: "
      ++ "start, end, start-half or end-half"
  | boundaryOrCountUnclosed =>
    "found either the beginning of a special word boundary or a bounded "
      ++ "repetition on a \\b with an opening brace, but no closing brace"
  | classUnclosed => "unclosed character class"
  | classRangeReversed =>
    "invalid character class range, the start must be <= the end"
  | classRangeBound => "invalid range boundary, must be a literal"
  | classEscape => "invalid escape sequence found in character class"
  | tooDeep limit =>
    s!"exceed the maximum number of nested parentheses/brackets ({limit})"
  | unicodeOff => "Unicode not allowed here"
  | invalidUtf8 => "pattern can match invalid UTF-8"
  | propertyUnknown => "Unicode property not found"
  | propertyValueUnknown => "Unicode property value not found"

end Cause

/-- A cause and the place it is reported at, in bytes from the start of the
pattern. -/
structure Fault where
  cause : Cause
  pos : Nat
deriving Repr, DecidableEq, Inhabited

/-- Refuses the pattern. -/
def refuse {α : Type} (cause : Cause) (pos : Nat) : Except Fault α :=
  .error ⟨cause, pos⟩

end PatternCheck.Pattern
