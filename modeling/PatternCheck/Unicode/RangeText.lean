import PatternCheck.Unicode.CodeSet

/-
The notation in which the property tables are written: items separated
by blanks, each a hexadecimal code point (`B7`), a range (`41-5A`) or a
progression (`100-12E/2`, every second code point of the range). A
mapping table adds the image of an item's first point (`41-5A>61`).
-/

namespace PatternCheck.Unicode

-- ============================================================ items

/-- The value of a hexadecimal digit. -/
def hexDigit? (c : Char) : Option Nat :=
  let n := c.toNat
  if 0x30 ≤ n && n ≤ 0x39 then some (n - 0x30)
  else if 0x41 ≤ n && n ≤ 0x46 then some (n - 0x41 + 10)
  else if 0x61 ≤ n && n ≤ 0x66 then some (n - 0x61 + 10)
  else none

/-- The value of digits in base sixteen; other characters are passed over. -/
def hexValue (cs : List Char) : Nat :=
  cs.foldl (fun n c => (hexDigit? c).elim n (n * 16 + ·)) 0

/-- One item of a table: a first and a last point, the distance from each
point to the next, and the image of the first one. -/
structure RangeItem where
  lo : Nat
  hi : Nat
  step : Nat
  target : Nat
deriving Repr, Inhabited

/-- Splits at the first occurrence of a separator. -/
def cutAt (sep : Char) (cs : List Char) : List Char × Option (List Char) :=
  match cs.span (· != sep) with
  | (a, []) => (a, none)
  | (a, _ :: b) => (a, some b)

/-- Reads one item. -/
def RangeItem.ofChars (cs : List Char) : RangeItem :=
  let (body, target) := cutAt '>' cs
  let (bounds, step) := cutAt '/' body
  let (lo, hi) := cutAt '-' bounds
  { lo := hexValue lo
    hi := hexValue (hi.getD lo)
    step := (step.map hexValue).getD 1
    target := (target.map hexValue).getD 0 }

/-- Reads a table. -/
def rangeItems (text : String) : List RangeItem :=
  (text.splitOn " ").filterMap fun t =>
    if t.isEmpty then none else some (.ofChars t.toList)

/-- Reads a table of several lines. -/
def linesItems (lines : List String) : List RangeItem :=
  lines.flatMap rangeItems

-- ============================================================= sets

/-- The points of a progression as intervals. -/
def RangeItem.intervals (r : RangeItem) : List Interval :=
  if r.step ≤ 1 then [⟨r.lo, r.hi⟩]
  else (List.range ((r.hi - r.lo) / r.step + 1)).map fun i =>
    ⟨r.lo + i * r.step, r.lo + i * r.step⟩

/-- The set that a table of several lines lists. -/
def CodeSet.ofLines (lines : List String) : CodeSet :=
  .ofRanges ((linesItems lines).flatMap RangeItem.intervals)

/-- The set that a table lists. -/
def CodeSet.ofText (text : String) : CodeSet := .ofLines [text]

/-- A value that a property can take: the names for it, and its members
if any character can have it. -/
structure PropertyValue where
  names : List String
  members : Option CodeSet

end PatternCheck.Unicode
