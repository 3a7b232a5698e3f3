import PatternCheck.Decimal.Shortest

/-
JSON documents. An object is the list of its members as they are written,
so a key may occur more than once; what that means is for the readers of
the document to say. Numbers keep the form in which they are held:
natural numbers and negative integers of 64 bits exactly, all others as a
decimal significand and an exponent.
-/

namespace PatternCheck.Json

/-- A number in a document. -/
inductive Number where
  | natural (n : Nat)
  /-- The negative integer `-n`. -/
  | negative (n : Nat)
  /-- The number `significand * 10 ^ exponent`, or its negative. -/
  | decimal (isNegative : Bool) (significand : Nat) (exponent : Int)
deriving Repr, DecidableEq, Inhabited

/-- A JSON document. -/
inductive Value where
  | null
  | bool (b : Bool)
  | number (n : Number)
  | string (s : String)
  | array (items : List Value)
  | object (members : List (String × Value))
deriving Repr, Inhabited

namespace Number

/-- The largest natural number that is held exactly. -/
def greatest : Nat := UInt64.size - 1

/-- The largest size of a negative integer that is held exactly. -/
def greatestNegative : Nat := UInt64.size / 2

/-- The largest power of ten that is a factor of its own. -/
def greatestPower : Int := 308

/-- Divides a number by a power of ten, in steps of the largest one. -/
def shrink (d : Decimal.Double) : Nat → Option Decimal.Double
  | n =>
    if _h : n ≤ greatestPower.toNat then
      do d.div (← Decimal.Double.ofNat (Nat.pow 10 n))
    else if d.mantissa = 0 then some d
    else do
      let step ← Decimal.Double.ofNat (Nat.pow 10 greatestPower.toNat)
      shrink (← d.div step) (n - greatestPower.toNat)
termination_by n => n
decreasing_by
  have : greatestPower.toNat = 308 := rfl
  omega

/-- The double that stands for a decimal number: the significand is
rounded, and multiplied or divided by a rounded power of ten. There is
none for what is too large. -/
def approximate (significand : Nat) (exponent : Int) :
    Option Decimal.Double := do
  let d ← Decimal.Double.ofNat significand
  if significand = 0 then return d
  if exponent < 0 then shrink d (-exponent).toNat
  else if exponent ≤ greatestPower then
    d.mul (← Decimal.Double.ofNat (Nat.pow 10 exponent.toNat))
  else none

/-- How numbers with a fraction or an exponent are shown. -/
def style : Decimal.Style := ⟨-5, 15, true⟩

/-- The text of a decimal number. -/
def decimalText (isNegative : Bool) (significand : Nat) (exponent : Int) :
    String :=
  style.render isNegative ((approximate significand exponent).getD ⟨0, 0⟩)

end Number

namespace Value

/-- What a list of members says about a key: the last member that has it
counts. -/
def lookup (key : String) (members : List (String × Value)) : Option Value :=
  (members.reverse.find? (·.1 == key)).map (·.2)

/-- The member of an object with a key. -/
def get? (key : String) : Value → Option Value
  | object members => lookup key members
  | _ => none

/-- The text of a string. -/
def text? : Value → Option String
  | string s => some s
  | _ => none

/-- Which boolean a value is. -/
def bool? : Value → Option Bool
  | bool b => some b
  | _ => none

/-- The member of an object with a key, if it is a boolean. -/
def boolOr (v : Value) (key : String) (otherwise : Bool) : Bool :=
  match v.get? key with
  | some (bool b) => b
  | _ => otherwise

/-- The member of an object with a key, if it is a string. -/
def textOr (v : Value) (key otherwise : String) : String :=
  match v.get? key with
  | some (string s) => s
  | _ => otherwise

/-- Which natural number a value is. -/
def natural? : Value → Option Nat
  | number (.natural n) => some n
  | _ => none

/-- The member of an object with a key, if it is a natural number. -/
def naturalOr (v : Value) (key : String) (otherwise : Nat) : Nat :=
  match v.get? key with
  | some (number (.natural n)) => n
  | _ => otherwise

/-- An optional value; what is missing is null. -/
def ofOption {α : Type} (f : α → Value) : Option α → Value
  | some a => f a
  | none => null

/-- A natural number. -/
def ofNat (n : Nat) : Value := number (.natural n)

end Value

end PatternCheck.Json
