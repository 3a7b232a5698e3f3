/-
Digits and the numbers they stand for.
-/

namespace PatternCheck.Decimal

/-- The value of a digit in some base; beyond nine the digits are letters of
either case. -/
def digit? (base : Nat) (c : Char) : Option Nat :=
  let n := c.toNat
  let v :=
    if 0x30 ≤ n ∧ n ≤ 0x39 then n - 0x30
    else if 0x41 ≤ n ∧ n ≤ 0x5A then n - 0x41 + 10
    else if 0x61 ≤ n ∧ n ≤ 0x7A then n - 0x61 + 10
    else base
  if v < base then some v else none

/-- Whether a character is a digit in some base. -/
def isDigit (base : Nat) (c : Char) : Bool := (digit? base c).isSome

/-- The value of digits in some base. -/
def digitsValue (base : Nat) (ds : List Char) : Nat :=
  (ds.filterMap (digit? base)).foldl (fun v d => v * base + d) 0

/-- The natural number that a text is; a plus sign may stand before it. -/
def natural? (cs : List Char) : Option Nat :=
  let ds := match cs with
    | '+' :: rest => rest
    | _ => cs
  if ds.isEmpty || !ds.all (isDigit 10) then none else some (digitsValue 10 ds)

/-- The integer that a text is; a sign may stand before it. -/
def integer? : List Char → Option Int
  | '-' :: ds =>
    if ds.isEmpty || !ds.all (isDigit 10) then none
    else some (-(digitsValue 10 ds : Int))
  | cs => (natural? cs).map Int.ofNat

end PatternCheck.Decimal
