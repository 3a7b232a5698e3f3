/-
How similar two words are. Characters match if they are the same and not
too far apart; what counts is how much of either word matches, and how
many of the matching characters stand in the same order. The measure is a
fraction, so that words can be compared exactly.
-/

namespace PatternCheck.CommandLine

/-- A fraction; its denominator is not zero. -/
structure Score where
  numerator : Nat
  denominator : Nat
deriving Repr, DecidableEq, Inhabited

namespace Score

/-- Whether a fraction is greater than another one. -/
def above (a b : Score) : Bool :=
  b.numerator * a.denominator < a.numerator * b.denominator

end Score

namespace Similarity

/-- How far apart characters that match may be. -/
def reach (a b : List Char) : Nat := max a.length b.length / 2 - 1

/-- The place of the first character that matches one at a place `i`, if
it is not taken yet; `j` counts the characters before. -/
def partner (reach i : Nat) (c : Char) (taken : List Nat) :
    Nat → List Char → Option Nat
  | _, [] => none
  | j, d :: rest =>
    if c = d && i ≤ j + reach && j ≤ i + reach && j ∉ taken then some j
    else partner reach i c taken (j + 1) rest

/-- The places of matching characters in the second word, for the
characters of the first word in order. -/
def partners (reach : Nat) (b : List Char) (taken : List Nat) :
    Nat → List Char → List (Char × Nat)
  | _, [] => []
  | i, c :: rest =>
    match partner reach i c taken 0 b with
    | some j => (c, j) :: partners reach b (j :: taken) (i + 1) rest
    | none => partners reach b taken (i + 1) rest

/-- How many of the matching characters of two words stand at odds. -/
def displaced (pairs : List (Char × Nat)) : Nat :=
  let inOrder := pairs.mergeSort fun p q => p.2 ≤ q.2
  (pairs.zip inOrder).countP fun (p, q) => p.1 ≠ q.1

/-- How similar two words are, at most 1. -/
def score (a b : List Char) : Score :=
  let pairs := partners (reach a b) b [] 0 a
  let m := pairs.length
  if m = 0 then ⟨if a.isEmpty && b.isEmpty then 1 else 0, 1⟩
  else
    let kept := m - displaced pairs / 2
    ⟨m * m * b.length + m * m * a.length + kept * a.length * b.length,
      3 * m * a.length * b.length⟩

/-- How similar a word has to be to be proposed. -/
def threshold : Score := ⟨7, 10⟩

/-- The most similar of some words, the last of several, if it is similar
enough. -/
def mostSimilar? (word : String) (words : List String) : Option String :=
  let scored := words.filterMap fun w =>
    let s := score word.toList w.toList
    if s.above threshold then some (w, s) else none
  (scored.foldl (fun best (w, s) =>
    match best with
    | some (v, t) => if Score.above t s then some (v, t) else some (w, s)
    | none => some (w, s)) none).map (·.1)

end Similarity

end PatternCheck.CommandLine
