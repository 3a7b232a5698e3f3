/-
Sets of code points as lists of closed intervals, kept sorted, disjoint
and never touching. Every character class of a pattern and every
Unicode property is one of these, so the module holds the Boolean
algebra on them (`union`, `inter`, `diff`, `symmDiff`, `compl`) and the
one reading that all of them are judged by, `contains`.

The algebra rests on two primitives: `ofRanges`, which sorts and joins
any list of intervals, and `compl`, which walks the gaps. The other
operations are their De Morgan combinations.
-/

namespace PatternCheck.Unicode

-- ======================================================= intervals

/-- A closed interval of code points. -/
structure Interval where
  lo : Nat
  hi : Nat
deriving Repr, DecidableEq, Inhabited

/-- How many code points an interval holds. -/
def Interval.size (r : Interval) : Nat := r.hi + 1 - r.lo

/-- A set of code points: intervals in ascending order, no two of which
overlap or touch. -/
structure CodeSet where
  ranges : List Interval
deriving Repr, DecidableEq, Inhabited

namespace CodeSet

/-- The last code point. -/
def lastPoint : Nat := 0x10FFFF

/-- The points that are no characters: halves of surrogate pairs. -/
def surrogates : Interval := ⟨0xD800, 0xDFFF⟩

def empty : CodeSet := ⟨[]⟩

def single (c : Nat) : CodeSet := ⟨[⟨c, c⟩]⟩

/-- Every code point. -/
def all : CodeSet := ⟨[⟨0, lastPoint⟩]⟩

def isEmpty (s : CodeSet) : Bool := s.ranges.isEmpty

/-- Membership. -/
def contains (s : CodeSet) (c : Nat) : Bool :=
  s.ranges.any fun r => r.lo ≤ c && c ≤ r.hi

/-- How many code points the set holds. -/
def size (s : CodeSet) : Nat := s.ranges.foldl (fun n r => n + r.size) 0

/-- The only member of a one-point set. -/
def single? (s : CodeSet) : Option Nat :=
  match s.ranges with
  | [r] => if r.lo = r.hi then some r.lo else none
  | _ => none

-- ================================================== canonical form

/-- Joins intervals that overlap or touch, given in ascending order of
their lower ends; `acc` holds the finished ones, latest first. -/
def join : List Interval → List Interval → List Interval
  | acc, [] => acc.reverse
  | [], r :: rest => join [r] rest
  | a :: acc, r :: rest =>
    if r.lo ≤ a.hi + 1 then join (⟨a.lo, max a.hi r.hi⟩ :: acc) rest
    else join (r :: a :: acc) rest

/-- The set of all points in a list of intervals, in any order. -/
def ofRanges (rs : List Interval) : CodeSet :=
  ⟨join [] (rs.mergeSort fun a b => a.lo ≤ b.lo)⟩

-- ========================================================= algebra

def union (s t : CodeSet) : CodeSet :=
  ⟨join [] (s.ranges.merge t.ranges fun a b => a.lo ≤ b.lo)⟩

/-- The gaps between ascending intervals, from `next` up to `last`. -/
def gaps (last : Nat) : Nat → List Interval → List Interval → List Interval
  | next, acc, [] => (if next ≤ last then ⟨next, last⟩ :: acc else acc).reverse
  | next, acc, r :: rest =>
    gaps last (r.hi + 1)
      (if next < r.lo then ⟨next, r.lo - 1⟩ :: acc else acc) rest

/-- The points outside the set. -/
def compl (s : CodeSet) : CodeSet := ⟨gaps lastPoint 0 [] s.ranges⟩

def inter (s t : CodeSet) : CodeSet := (s.compl.union t.compl).compl

def diff (s t : CodeSet) : CodeSet := (s.compl.union t).compl

def symmDiff (s t : CodeSet) : CodeSet := (s.diff t).union (t.diff s)

/-- Whether every member is below `bound`. -/
def below (s : CodeSet) (bound : Nat) : Bool := s.ranges.all (·.hi < bound)

/-- The characters outside the set: halves of surrogate pairs are left
out, since no text holds them. -/
def complChars (s : CodeSet) : CodeSet := (s.union ⟨[surrogates]⟩).compl

instance : Append CodeSet := ⟨union⟩

end CodeSet

end PatternCheck.Unicode
