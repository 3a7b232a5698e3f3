import PatternCheck.Decimal.Digits
import PatternCheck.Decimal.Shortest
import PatternCheck.Text.Scan

/-
Double precision numbers with their sign, the two infinities and the value
that is no number; and the text in which they are commonly written.
-/

namespace PatternCheck.Decimal

open Text (Scan)

/-- A double precision number. -/
inductive Floating where
  | finite (isNegative : Bool) (size : Double)
  | infinite (isNegative : Bool)
  | nan
deriving Repr, DecidableEq, Inhabited

namespace Floating

/-- The number `significand * 10 ^ exponent`, or its negative, rounded. -/
def ofDecimal (isNegative : Bool) (significand : Nat) (exponent : Int) :
    Floating :=
  match Double.ofDecimal significand exponent with
  | some d => finite isNegative d
  | none => infinite isNegative

/-- The text of a number. -/
def render (style : Style) : Floating → String
  | finite isNegative d => style.render isNegative d
  | infinite isNegative => if isNegative then "-inf" else "inf"
  | nan => "NaN"

-- ============================================================== reading

/-- A sign that may be missing; whether it is a minus sign. -/
def sign : Scan Bool := do
  let c ← Scan.maybe (Scan.one fun c => c = '+' || c = '-')
  return c == some '-'

/-- An exponent that may be missing. -/
def exponent : Scan Int := do
  match ← Scan.maybe (Scan.one fun c => c = 'e' || c = 'E') with
  | none => return 0
  | some _ =>
    let isNegative ← sign
    let ds ← Scan.someSpan (isDigit 10)
    let n : Int := digitsValue 10 ds
    return if isNegative then -n else n

/-- Digits with a point among them, before them or after them, and an
exponent. -/
def digits (isNegative : Bool) : Scan Floating := do
  let whole ← Scan.span (isDigit 10)
  let point ← Scan.maybe (Scan.char '.')
  let part ← if point.isSome then Scan.span (isDigit 10) else pure []
  if whole.isEmpty && part.isEmpty then failure
  let e ← exponent
  return ofDecimal isNegative (digitsValue 10 (whole ++ part))
    (e - part.length)

/-- The value that a text has by its name, in letters of either case. -/
def named (isNegative : Bool) : Scan Floating := do
  let name ← Scan.someSpan fun _ => true
  match String.ofList (name.map Char.toLower) with
  | "inf" => return infinite isNegative
  | "infinity" => return infinite isNegative
  | "nan" => return nan
  | _ => failure

/-- The number that a text is. -/
def ofChars? (text : List Char) : Option Floating :=
  Scan.whole (do
    let isNegative ← sign
    digits isNegative <|> named isNegative) text

end Floating

end PatternCheck.Decimal
