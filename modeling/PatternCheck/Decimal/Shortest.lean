import PatternCheck.Decimal.Double

/-
The decimal text of a double. `Double.shortest` gives the fewest digits
that read back as the same number, and of those the nearest to it;
`Style.render` writes such digits with or without an exponent, as the
format at hand wants it.

The numbers that are read as a double are those of an interval around it,
half way to its neighbours on both sides; the ends belong to it where the
mantissa is even. The search goes over decimal grids from coarse to fine
and tests the two points of the grid next to the number.
-/

namespace PatternCheck.Decimal

-- ====================================================== fewest digits

/-- A number, and the ends of the interval of those that are rounded to
it, as multiples of a common quotient. -/
structure Rounded where
  low : Nat
  value : Nat
  high : Nat
  den : Nat
  /-- Whether the ends are rounded to the number. -/
  closed : Bool
deriving Repr

namespace Rounded

/-- The interval of a double. Below a power of two the neighbour is half
as far away. -/
def ofDouble (d : Double) : Rounded :=
  let (up, down) := Double.scale (d.exponent - 2)
  let narrow :=
    d.mantissa * 2 = Double.mantissas ∧ Double.leastExponent < d.exponent
  { low := (4 * d.mantissa - if narrow then 1 else 2) * up
    value := 4 * d.mantissa * up
    high := (4 * d.mantissa + 2) * up
    den := down
    closed := d.mantissa % 2 = 0 }

/-- The same interval in units of `10 ^ e`. -/
def inUnits (r : Rounded) (e : Int) : Rounded :=
  let (up, down) := Double.scaleTen e
  { r with
    low := r.low * down, value := r.value * down, high := r.high * down,
    den := r.den * up }

/-- Whether a natural number is in the interval. -/
def contains (r : Rounded) (n : Nat) : Bool :=
  if r.closed then r.low ≤ n * r.den && n * r.den ≤ r.high
  else r.low < n * r.den && n * r.den < r.high

/-- The natural number in the interval that is nearest to the value. -/
def nearest? (r : Rounded) : Option Nat :=
  let n := r.value / r.den
  match r.contains n, r.contains (n + 1) with
  | true, true =>
    let below := r.value - n * r.den
    let above := (n + 1) * r.den - r.value
    some (if below < above then n else if above < below then
      n + 1 else n + n % 2)
  | true, false => some n
  | false, true => some (n + 1)
  | false, false => none

/-- The first of some grids, from `10 ^ e` downwards, that has a point in
the interval. -/
def search (r : Rounded) : Nat → Int → Nat × Int
  | 0, e => (0, e)
  | grids + 1, e =>
    match (r.inUnits e).nearest? with
    | some n => (n, e)
    | none => search r grids (e - 1)

end Rounded

/-- The fewest digits that read back as a number, as a natural number and
a power of ten. -/
def Double.shortest (d : Double) : Nat × Int :=
  if d.mantissa = 0 then (0, 0)
  else
    let bits : Int := d.mantissa.log2 + 1 + d.exponent
    (Rounded.ofDouble d).search 24 (bits * 30103 / 100000 + 2)

-- ============================================================ writing

/-- How decimal digits are written. -/
structure Style where
  /-- The least exponent of a first digit that is written without one. -/
  least : Int
  /-- The greatest exponent of a first digit that is written without one. -/
  greatest : Int
  /-- Whether a number without a fraction has one all the same. -/
  pointed : Bool

namespace Style

/-- Zeros. -/
def zeros (n : Nat) : String := String.ofList (List.replicate n '0')

/-- Digits with a point in their midst, before them or after them. -/
def positional (style : Style) (digits : List Char) (e : Int) : String :=
  let point : Int := digits.length + e
  if 0 ≤ e then
    String.ofList digits ++ zeros e.toNat ++ if style.pointed then ".0" else ""
  else if point ≤ 0 then "0." ++ zeros (-point).toNat ++ String.ofList digits
  else String.ofList (digits.take point.toNat) ++ "."
    ++ String.ofList (digits.drop point.toNat)

/-- An exponent, with its sign and at least two digits. -/
def exponentText (e : Int) : String :=
  let n := e.natAbs
  "e" ++ (if e < 0 then "-" else "+") ++ (if n < 10 then "0" else "")
    ++ toString n

/-- Digits with a point after the first one, and an exponent. -/
def scientific (digits : List Char) (first : Int) : String :=
  let rest := digits.drop 1
  String.ofList (digits.take 1)
    ++ (if rest.isEmpty then "" else "." ++ String.ofList rest)
    ++ exponentText first

/-- The text of a number. -/
def render (style : Style) (negative : Bool) (d : Double) : String :=
  let (n, e) := d.shortest
  let digits := (toString n).toList
  let first : Int := digits.length + e - 1
  (if negative then "-" else "")
    ++ if style.least ≤ first && first ≤ style.greatest then
      positional style digits e
      else scientific digits first

end Style

end PatternCheck.Decimal
