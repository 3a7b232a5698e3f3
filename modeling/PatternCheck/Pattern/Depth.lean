import PatternCheck.Pattern.Node

/-
Nesting. Groups, repetitions, alternations, concatenations, bracketed
classes, unions of class items and set operators each count as one
level; everything else counts as none. `depth` is the number of levels,
`beyond?` the place of the first node, in reading order, that lies
deeper than a limit allows.
-/

namespace PatternCheck.Pattern

-- ============================================================== depth

namespace ClassSet

mutual

/-- How many levels a set has. -/
def depth : ClassSet → Nat
  | .bracketed _ _ body => body.depth + 1
  | .union _ items => depths items + 1
  | .binary _ _ lhs rhs => max lhs.depth rhs.depth + 1
  | _ => 0

/-- The deepest of several sets. -/
def depths : List ClassSet → Nat
  | [] => 0
  | x :: rest => max x.depth (depths rest)

end

end ClassSet

namespace Node

mutual

/-- How many levels a pattern has. -/
def depth : Node → Nat
  | .bracketed _ _ body => body.depth + 1
  | .repetition _ _ _ body => body.depth + 1
  | .group _ _ body => body.depth + 1
  | .alternation _ branches => depths branches + 1
  | .concat _ items => depths items + 1
  | _ => 0

/-- The deepest of several patterns. -/
def depths : List Node → Nat
  | [] => 0
  | x :: rest => max x.depth (depths rest)

end

end Node

-- ================================================= the first node too deep

namespace ClassSet

mutual

/-- The place of the first node with more than `room` levels down to it. -/
def beyond? : Nat → ClassSet → Option Nat
  | 0, .bracketed p _ _ => some p
  | 0, .union p _ => some p
  | 0, .binary p _ _ _ => some p
  | n + 1, .bracketed _ _ body => body.beyond? n
  | n + 1, .union _ items => beyonds? n items
  | n + 1, .binary _ _ lhs rhs => (lhs.beyond? n).or (rhs.beyond? n)
  | _, _ => none

/-- The same for several sets side by side. -/
def beyonds? : Nat → List ClassSet → Option Nat
  | _, [] => none
  | n, x :: rest => (x.beyond? n).or (beyonds? n rest)

end

end ClassSet

namespace Node

mutual

/-- The place of the first node with more than `room` levels down to it. -/
def beyond? : Nat → Node → Option Nat
  | 0, .bracketed p _ _ => some p
  | 0, .repetition p _ _ _ => some p
  | 0, .group p _ _ => some p
  | 0, .alternation p _ => some p
  | 0, .concat p _ => some p
  | n + 1, .bracketed _ _ body => body.beyond? n
  | n + 1, .repetition _ _ _ body => body.beyond? n
  | n + 1, .group _ _ body => body.beyond? n
  | n + 1, .alternation _ branches => beyonds? n branches
  | n + 1, .concat _ items => beyonds? n items
  | _, _ => none

/-- The same for several patterns side by side. -/
def beyonds? : Nat → List Node → Option Nat
  | _, [] => none
  | n, x :: rest => (x.beyond? n).or (beyonds? n rest)

end

end Node

end PatternCheck.Pattern
