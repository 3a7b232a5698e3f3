import PatternCheck.Decimal.Digits
import PatternCheck.Text.Blank

/-
Ranges of bytes that a request asks for instead of a whole file. A list of
them is read from the text of a header; then each is made a stretch of
bytes for a file of a certain size. Stretches may not be reversed and may
not overlap.
-/

namespace PatternCheck.Http

/-- A range of bytes. -/
inductive ByteRange where
  /-- From a byte to a byte, both included. -/
  | between (first last : Nat)
  /-- From a byte to the end. -/
  | onward (first : Nat)
  /-- So many bytes at the end. -/
  | final (count : Nat)
deriving Repr, DecidableEq, Inhabited

namespace ByteRange

-- =============================================================== reading

/-- Digits as a number of 64 bits, without leading zeros. -/
def number? (cs : List Char) : Option Nat :=
  if cs.isEmpty || !cs.all (Decimal.isDigit 10) then none
  else if cs.head? = some '0' && 1 < cs.length then none
  else
    let n := Decimal.digitsValue 10 cs
    if n < UInt64.size then some n else none

/-- The two parts of a text around its only character of a kind. -/
def halves? (mark : Char) (cs : List Char) : Option (List Char × List Char) :=
  match cs.dropWhile (· ≠ mark) with
  | [] => none
  | _ :: right =>
    if mark ∈ right then none else some (cs.takeWhile (· ≠ mark), right)

/-- One range. -/
def ofChars? (cs : List Char) : Option ByteRange := do
  let (left, right) ← halves? '-' cs
  if left.isEmpty then
    let count ← number? right
    if count = 0 then none else some (final count)
  else
    let first ← number? left
    if right.isEmpty then some (onward first)
    else return between first (← number? right)

/-- The parts of a text between commas; `part` is the current one, latest
character first. -/
def partsFrom (part : List Char) : List Char → List (List Char)
  | [] => [part.reverse]
  | c :: rest =>
    if c = ',' then part.reverse :: partsFrom [] rest
    else partsFrom (c :: part) rest

/-- A part with one blank before it at the most, without that. -/
def trimmed? (cs : List Char) : Option (List Char) :=
  if cs.getLast?.any Text.isBlank || 1 < cs.countP Text.isBlank then none
  else some (Text.trim cs)

/-- The ranges that the text of a header asks for. -/
def ofText? (text : String) : Option (List ByteRange) := do
  let (unit, ranges) ← halves? '=' text.toList
  if unit ≠ "bytes".toList || ranges.head?.any Text.isBlank then none
  else (partsFrom [] ranges).mapM fun part => do ofChars? (← trimmed? part)

-- ============================================================= stretches

/-- The first and the last byte of a range in a file of some size. -/
def stretch? (size : Nat) : ByteRange → Option (Nat × Nat)
  | between first last => some (first, min last (size - 1))
  | onward first => some (first, size - 1)
  | final count => if size < count then none else some (size - count, size - 1)

/-- Whether two stretches share a byte. -/
def overlap (a b : Nat × Nat) : Bool := a.1 ≤ b.2 && b.1 ≤ a.2

/-- Whether no two of some stretches share a byte. -/
def separate : List (Nat × Nat) → Bool
  | [] => true
  | a :: rest => rest.all (!overlap a ·) && separate rest

/-- The stretches of ranges in a file of some size, if they can all be
had. -/
def stretches? (size : Nat) (ranges : List ByteRange) :
    Option (List (Nat × Nat)) := do
  let found ← ranges.mapM (stretch? size)
  if found.any fun (first, last) => last < first then none
  else if separate found then some found
  else none

end ByteRange

end PatternCheck.Http
