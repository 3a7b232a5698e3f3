/-
Double precision numbers without their sign: a mantissa of at most 53
bits times a power of two. They are computed exactly, on natural numbers:
`ofRatio` is the only place that rounds, to the nearest number, and to
the even mantissa where two are equally near. Multiplication, division
and powers of ten are quotients of natural numbers that are rounded once.
-/

namespace PatternCheck.Decimal

/-- The quotient of two numbers, rounded to the nearest natural number; a
half goes to the even one. -/
def roundDiv (num den : Nat) : Nat :=
  let q := num / den
  let r := num % den
  if 2 * r < den then q else if den < 2 * r then q + 1 else q + q % 2

/-- The number `mantissa * 2 ^ exponent`. -/
structure Double where
  mantissa : Nat
  exponent : Int
deriving Repr, DecidableEq, Inhabited

namespace Double

/-- The exponent of the smallest number above zero. -/
def leastExponent : Int := -1074

/-- The exponent of the largest numbers. -/
def greatestExponent : Int := 971

/-- How many values a mantissa has. -/
def mantissas : Nat := Nat.pow 2 53

/-- A power of two, split into what it multiplies above and below a
fraction bar. -/
def scale (e : Int) : Nat × Nat := (Nat.pow 2 e.toNat, Nat.pow 2 (-e).toNat)

/-- A power of ten, split in the same way. -/
def scaleTen (e : Int) : Nat × Nat :=
  (Nat.pow 10 e.toNat, Nat.pow 10 (-e).toNat)

/-- The number as a quotient. -/
def toRatio (d : Double) : Nat × Nat :=
  let (up, down) := scale d.exponent
  (d.mantissa * up, down)

/-- The exponent that gives a quotient a mantissa of full length. -/
def exponentFor (num den : Nat) : Int :=
  let e : Int := num.log2 - den.log2
  let (up, down) := scale e
  let full := if den * up ≤ num * down then e - 52 else e - 53
  max leastExponent full

/-- The double nearest to a quotient; none where that is beyond the
largest. The denominator is not zero. -/
def ofRatio (num den : Nat) : Option Double :=
  if num = 0 then some ⟨0, 0⟩
  else
    let e := exponentFor num den
    let (up, down) := scale e
    let m := roundDiv (num * down) (den * up)
    let d : Double := if m = mantissas then ⟨m / 2, e + 1⟩ else ⟨m, e⟩
    if greatestExponent < d.exponent then none else some d

/-- The double nearest to a natural number. -/
def ofNat (n : Nat) : Option Double := ofRatio n 1

/-- The double nearest to a product. -/
def mul (a b : Double) : Option Double :=
  ofRatio (a.toRatio.1 * b.toRatio.1) (a.toRatio.2 * b.toRatio.2)

/-- The double nearest to a quotient of doubles. -/
def div (a b : Double) : Option Double :=
  ofRatio (a.toRatio.1 * b.toRatio.2) (a.toRatio.2 * b.toRatio.1)

/-- The double nearest to `significand * 10 ^ exponent`. Powers far beyond
the range are told apart first, so that no large power is computed for
them. -/
def ofDecimal (significand : Nat) (exponent : Int) : Option Double :=
  if significand = 0 then some ⟨0, 0⟩
  else
    let digits : Int := (toString significand).length
    if 400 < digits + exponent then none
    else if digits + exponent < -400 then some ⟨0, 0⟩
    else
      let (up, down) := scaleTen exponent
      ofRatio (significand * up) down

end Double

end PatternCheck.Decimal
