import PatternCheck.Decimal.Digits
import PatternCheck.Text.Scan

/-
Internet addresses with a port, and their text. An address of version 4
is four numbers with points between them; one of version 6 is eight
groups of hexadecimal digits with colons between them, where one run of
zero groups may be left out and the last two groups may be written like
an address of version 4. `Address.render` writes the one form that
is usual: the longest run of zeros left out, the first of several.
-/

namespace PatternCheck.Net

open Text (Scan)
open Decimal (isDigit digitsValue)

/-- An address of a host. -/
inductive Host where
  /-- Four bytes. -/
  | v4 (a b c d : Nat)
  /-- Eight groups of two bytes, and the number of an interface, or zero. -/
  | v6 (groups : List Nat) (scope : Nat)
deriving Repr, DecidableEq, Inhabited

/-- A host and a port. -/
structure Address where
  host : Host
  port : Nat
deriving Repr, DecidableEq, Inhabited

-- ============================================================== reading

namespace Address

/-- Digits as a number below a bound, as many as there are, but no more
than `most` where that is given. `padded` allows leading zeros. -/
def number (base bound : Nat) (most : Option Nat) (padded : Bool) :
    Scan Nat := do
  let ds ← Scan.someSpan (isDigit base)
  let value := digitsValue base ds
  if most.any (· < ds.length) then failure
  else if !padded && ds.head? == some '0' && 1 < ds.length then failure
  else if bound ≤ value then failure
  else return value

/-- A byte in decimal digits. -/
def byte : Scan Nat := number 10 256 (some 3) false

/-- A byte after a point. -/
def pointed : Scan Nat := do
  Scan.char '.'
  byte

/-- Four bytes with points between them. -/
def fourBytes : Scan (Nat × Nat × Nat × Nat) := do
  return (← byte, ← pointed, ← pointed, ← pointed)

/-- A thing after a colon, where it is not the first of several. -/
def following {α : Type} (first : Bool) (s : Scan α) : Scan α := do
  if !first then Scan.char ':'
  s

/-- A group of hexadecimal digits. -/
def group : Scan Nat := number 16 65536 (some 4) true

/-- At most `room` groups; `acc` holds those before, latest first. The
answer also says whether the last two were written as four bytes. -/
def groups (acc : List Nat) : Nat → Scan (List Nat × Bool)
  | 0 => return (acc.reverse, false)
  | room + 1 => do
    let bytes ←
      if room = 0 then pure none
      else Scan.maybe (following acc.isEmpty fourBytes)
    match bytes with
    | some (a, b, c, d) =>
      return (((c * 256 + d) :: (a * 256 + b) :: acc).reverse, true)
    | none =>
      match ← Scan.maybe (following acc.isEmpty group) with
      | some g => groups (g :: acc) room
      | none => return (acc.reverse, false)

/-- Eight groups, with zeros for those left out. -/
def eightGroups : Scan (List Nat) := do
  let (head, short) ← groups [] 8
  if head.length = 8 then return head
  if short then failure
  Scan.exactly "::"
  let (tail, _) ← groups [] (7 - head.length)
  return head ++ List.replicate (8 - head.length - tail.length) 0 ++ tail

/-- The number of an interface. -/
def interface : Scan Nat := do
  Scan.char '%'
  number 10 UInt32.size none true

/-- A port after a colon. -/
def portAfterColon : Scan Nat := do
  Scan.char ':'
  number 10 65536 none true

/-- An address of version 4. -/
def version4 : Scan Address := do
  let (a, b, c, d) ← fourBytes
  return ⟨.v4 a b c d, ← portAfterColon⟩

/-- An address of version 6, in brackets. -/
def version6 : Scan Address := do
  Scan.char '['
  let gs ← eightGroups
  let scope ← Scan.maybe interface
  Scan.char ']'
  return ⟨.v6 gs (scope.getD 0), ← portAfterColon⟩

/-- The address that a text is. -/
def ofText? (text : String) : Option Address :=
  Scan.whole (version4 <|> version6) text.toList

-- ============================================================== writing

/-- A run of groups: where it begins and how long it is. -/
structure Run where
  start : Nat
  length : Nat
deriving Repr, DecidableEq, Inhabited

/-- The longest run of zeros, the first of several; `best` is the longest
before, `current` the one that ends just before the groups. -/
def longestZeros (best current : Run) (index : Nat) : List Nat → Run
  | [] => best
  | g :: gs =>
    if g = 0 then
      let current :=
        ⟨if current.length = 0 then index else current.start,
          current.length + 1⟩
      longestZeros (if best.length < current.length then current else best)
        current (index + 1) gs
    else longestZeros best ⟨0, 0⟩ (index + 1) gs

/-- Groups with colons between them. -/
def groupsText (gs : List Nat) : String :=
  String.intercalate ":" (gs.map fun g => String.ofList (Nat.toDigits 16 g))

/-- The text of four bytes. -/
def bytesText (a b c d : Nat) : String := s!"{a}.{b}.{c}.{d}"

/-- The text of eight groups. -/
def hostText (gs : List Nat) : String :=
  match gs with
  | [0, 0, 0, 0, 0, 0xFFFF, high, low] =>
    "::ffff:" ++ bytesText (high / 256) (high % 256) (low / 256) (low % 256)
  | _ =>
    let zeros := longestZeros ⟨0, 0⟩ ⟨0, 0⟩ 0 gs
    if 1 < zeros.length then
      groupsText (gs.take zeros.start) ++ "::"
        ++ groupsText (gs.drop (zeros.start + zeros.length))
    else groupsText gs

/-- The text of an address. -/
def render (address : Address) : String :=
  match address.host with
  | .v4 a b c d => s!"{bytesText a b c d}:{address.port}"
  | .v6 gs scope =>
    let interface := if scope = 0 then "" else s!"%{scope}"
    s!"[{hostText gs}{interface}]:{address.port}"

end Address

end PatternCheck.Net
