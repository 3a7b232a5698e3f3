import PatternCheck.Pattern.Node

/-
What a pattern matches once flags, classes and escapes have been worked
out: a `Matcher` knows only texts, sets of characters, conditions on
places, and ways to combine them. The functions that build matchers
(`ofSet`, `repeated`, `sequence`, `choice`) keep them simple: texts side
by side become one text, choices between characters become a set, and
so on. What is left decides how large the compiled pattern is and
whether it can be searched for as plain literals.
-/

namespace PatternCheck.Pattern

open Unicode (CodeSet)

/-- What a pattern matches. -/
inductive Matcher where
  | empty
  | text (cs : List Char)
  /-- One character of a set, which may be empty and then matches nothing. -/
  | set (s : CodeSet)
  /-- A condition on a place; `anyScript` says whether it is one on words
  and words may be of any script. -/
  | assertion (kind : Assertion) (anyScript : Bool)
  | repetition (count : Count) (greedy : Bool) (sub : Matcher)
  | capture (sub : Matcher)
  | sequence (subs : List Matcher)
  | choice (subs : List Matcher)
deriving Repr, Inhabited

namespace Matcher

-- ============================================================ equality

mutual

/-- Whether two matchers are built alike. -/
def same : Matcher → Matcher → Bool
  | .empty, .empty => true
  | .text a, .text b => a == b
  | .set s, .set t => s == t
  | .assertion a u, .assertion b v => a == b && u == v
  | .repetition j g a, .repetition k h b => j == k && g == h && a.same b
  | .capture a, .capture b => a.same b
  | .sequence as, .sequence bs => sames as bs
  | .choice as, .choice bs => sames as bs
  | _, _ => false

/-- The same for lists of matchers. -/
def sames : List Matcher → List Matcher → Bool
  | [], [] => true
  | a :: as, b :: bs => a.same b && sames as bs
  | _, _ => false

end

-- ============================================================= lengths

/-- The number of bytes of a code point in UTF-8. -/
def codeBytes (c : Nat) : Nat :=
  if c < 0x80 then 1 else if c < 0x800 then 2 else if c < 0x10000 then 3 else 4

/-- The greatest number of bytes in a match, if there is one. -/
def maxBytes? : Matcher → Option Nat
  | .empty => some 0
  | .text cs => some (cs.foldl (fun n c => n + codeBytes c.toNat) 0)
  | .set s => s.ranges.getLast?.map (codeBytes ·.hi)
  | .assertion .. => some 0
  | .repetition count _ sub => do return (← count.max) * (← sub.maxBytes?)
  | .capture sub => sub.maxBytes?
  | .sequence subs => all subs (· + ·)
  | .choice subs => all subs max
where
  /-- Combines the lengths of all parts. -/
  all : List Matcher → (Nat → Nat → Nat) → Option Nat
    | [], _ => some 0
    | x :: rest, f => do return f (← x.maxBytes?) (← all rest f)

/-- The least number of bytes in a match, if there is a match. -/
def minBytes? : Matcher → Option Nat
  | .empty => some 0
  | .text cs => some (cs.foldl (fun n c => n + codeBytes c.toNat) 0)
  | .set s => s.ranges.head?.map (codeBytes ·.lo)
  | .assertion .. => some 0
  | .repetition count _ sub => do return count.min * (← sub.minBytes?)
  | .capture sub => sub.minBytes?
  | .sequence subs => total subs
  | .choice subs => least subs
where
  /-- The lengths of all parts together. -/
  total : List Matcher → Option Nat
    | [] => some 0
    | x :: rest => do return (← x.minBytes?) + (← total rest)
  /-- The least of the lengths of the parts. -/
  least : List Matcher → Option Nat
    | [] => none
    | [x] => x.minBytes?
    | x :: rest => do return min (← x.minBytes?) (← least rest)

-- =========================================================== contents

/-- How many groups capture what they match. -/
def captures : Matcher → Nat
  | .capture sub => sub.captures + 1
  | .repetition _ _ sub => sub.captures
  | .sequence subs => all subs
  | .choice subs => all subs
  | _ => 0
where
  /-- The groups of all parts. -/
  all : List Matcher → Nat
    | [] => 0
    | x :: rest => x.captures + all rest

/-- Whether there is a condition on places anywhere of a kind that is
looked for. -/
def asserts (sought : Assertion → Bool → Bool) : Matcher → Bool
  | .assertion kind anyScript => sought kind anyScript
  | .capture sub => sub.asserts sought
  | .repetition _ _ sub => sub.asserts sought
  | .sequence subs => any subs
  | .choice subs => any subs
  | _ => false
where
  /-- Whether one of the parts has such a condition. -/
  any : List Matcher → Bool
    | [] => false
    | x :: rest => x.asserts sought || any rest

/-- Whether there is a condition on places anywhere. -/
def hasAssertion : Matcher → Bool := asserts fun _ _ => true

/-- Whether there is a condition anywhere on words that may be of any
script. -/
def hasWordsOfAnyScript : Matcher → Bool :=
  asserts fun _ anyScript => anyScript

-- =========================================================== building

/-- The text of some characters; no characters are the empty match. -/
def ofText : List Char → Matcher
  | [] => empty
  | cs => text cs

/-- One character of a set; the only character of a set is a text. -/
def ofSet (s : CodeSet) : Matcher :=
  match s.single? with
  | some c => text [Char.ofNat c]
  | none => set s

/-- A repetition. An operand that matches the empty text alone is not
repeated more than once; no repetition at all matches the empty text. -/
def repeated (count : Count) (greedy : Bool) (sub : Matcher) : Matcher :=
  let count : Count :=
    if sub.maxBytes? = some 0 then
      ⟨min count.min 1, some ((count.max.map (min · 1)).getD 1)⟩
    else count
  if count = ⟨0, some 0⟩ then empty
  else if count = ⟨1, some 1⟩ then sub
  else repetition count greedy sub

/-- Puts a matcher in front of a sequence in which no two texts are side
by side. -/
def prepend : Matcher → List Matcher → List Matcher
  | .empty, rest => rest
  | .text cs, .text ds :: rest => .text (cs ++ ds) :: rest
  | m, rest => m :: rest

/-- Matchers one after the other. -/
def ofSequence (subs : List Matcher) : Matcher :=
  let flat := subs.flatMap fun
    | .sequence parts => parts
    | m => [m]
  match flat.foldr prepend [] with
  | [] => empty
  | [m] => m
  | parts => sequence parts

/-- The characters that a list of one-character texts can match. -/
def singleChars? (subs : List Matcher) : Option CodeSet :=
  (subs.mapM char?).map .ofRanges
where
  char? : Matcher → Option Unicode.Interval
    | .text [c] => some ⟨c.toNat, c.toNat⟩
    | _ => none

/-- The characters that a list of sets can match. -/
def joinedSets? (subs : List Matcher) : Option CodeSet :=
  (subs.mapM ranges?).map fun rs => .ofRanges rs.flatten
where
  ranges? : Matcher → Option (List Unicode.Interval)
    | .set s => some s.ranges
    | _ => none

/-- How many parts two sequences have in common at the beginning. -/
def commonParts : List Matcher → List Matcher → Nat
  | a :: as, b :: bs => if a.same b then commonParts as bs + 1 else 0
  | _, _ => 0

/-- The parts of each of several sequences, if that is what they are. -/
def sequenceParts? (subs : List Matcher) : Option (List (List Matcher)) :=
  subs.mapM parts?
where
  parts? : Matcher → Option (List Matcher)
    | .sequence parts => some parts
    | _ => none

/-- Alternatives as a set of characters where possible. -/
def plainChoice (subs : List Matcher) : Matcher :=
  let flat := subs.flatMap fun
    | .choice parts => parts
    | m => [m]
  match flat with
  | [] => set .empty
  | [m] => m
  | parts =>
    match (singleChars? parts).or (joinedSets? parts) with
    | some s => ofSet s
    | none => choice parts

/-- Alternatives. What sequences have in common at their beginning is
written once, in front of a choice between the rests. -/
def ofChoice (subs : List Matcher) : Matcher :=
  match plainChoice subs with
  | .choice parts =>
    match sequenceParts? parts with
    | some (first :: others) =>
      match others.foldl (fun n p => min n (commonParts first p))
        first.length with
      | 0 => choice parts
      | n =>
        let rests := (first :: others).map fun p => ofSequence (p.drop n)
        ofSequence (first.take n ++ [plainChoice rests])
    | _ => choice parts
  | m => m

end Matcher

end PatternCheck.Pattern
