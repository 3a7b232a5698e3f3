import PatternCheck.Unicode.CodeSet

/-
The UTF-8 spellings of a range of code points, as sequences of byte
ranges: `[C3][80-BF]` stands for all spellings of `C0` to `FF`. A set of
characters is compiled to an automaton over such sequences, and the
number of states it needs is the number of their distinct beginnings.
-/

namespace PatternCheck.Unicode

/-- A range of byte values. -/
abbrev ByteRange := Nat × Nat

namespace ByteRange

/-- The spellings of the values from `lo` to `hi` by a leading number and
`k` digits in base 64, each as ranges for one position after the other. -/
def spellings : Nat → Nat → Nat → List (List ByteRange)
  | 0, lo, hi => [[(lo, hi)]]
  | k + 1, lo, hi =>
    let base := Nat.pow 64 (k + 1)
    let a := lo / base
    let b := hi / base
    if a = b then tails k a (lo % base) (hi % base)
    else
      let firstFull := if lo % base = 0 then a else a + 1
      let lastFull := if hi % base = base - 1 then b else b - 1
      (if firstFull = a then [] else tails k a (lo % base) (base - 1))
        ++ (if firstFull ≤ lastFull then
              [(firstFull, lastFull) :: List.replicate (k + 1) (0, 63)]
            else [])
        ++ (if lastFull = b then [] else tails k b 0 (hi % base))
where
  /-- The spellings that begin with the number `lead`. -/
  tails (k lead lo hi : Nat) : List (List ByteRange) :=
    (spellings k lo hi).map fun rest => (lead, lead) :: rest

/-- The parts of an interval that have spellings of one length, and stay
clear of the surrogates: the number of digits after the lead, and the
bounds. -/
def sameLength (r : Interval) : List (Nat × Interval) :=
  [(0, 0, 0x7F), (1, 0x80, 0x7FF), (2, 0x800, 0xD7FF), (2, 0xE000, 0xFFFF),
    (3, 0x10000, 0x10FFFF)].filterMap fun (k, lo, hi) =>
    if max r.lo lo ≤ min r.hi hi then some (k, ⟨max r.lo lo, min r.hi hi⟩)
    else none

/-- Adds to the numbers of a spelling the bits that mark the first byte of
`k + 1` and the bytes that follow it. -/
def mark (k : Nat) : List ByteRange → List ByteRange
  | [] => []
  | first :: rest =>
    let lead := match k with
      | 0 => 0
      | 1 => 0xC0
      | 2 => 0xE0
      | _ => 0xF0
    (first.1 + lead, first.2 + lead) :: rest.map fun d =>
      (d.1 + 0x80, d.2 + 0x80)

/-- The spellings of all members of a set. -/
def ofSet (s : CodeSet) : List (List ByteRange) :=
  s.ranges.flatMap fun r =>
    (sameLength r).flatMap fun (k, part) =>
      (spellings k part.lo part.hi).map (mark k)

end ByteRange

-- ==================================================== shared beginnings

/-- How many items two lists have in common at the beginning. -/
def commonLength {α : Type} [BEq α] : List α → List α → Nat
  | a :: as, b :: bs => if a == b then commonLength as bs + 1 else 0
  | _, _ => 0

/-- How many distinct nonempty beginnings the lists have, when lists with
a common beginning come one after the other; `previous` is the list
before, `n` the number so far. -/
def beginnings {α : Type} [BEq α] (previous : List α) (n : Nat) :
    List (List α) → Nat
  | [] => n
  | x :: rest => beginnings x (n + (x.length - commonLength previous x)) rest

end PatternCheck.Unicode
