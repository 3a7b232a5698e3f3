import PatternCheck.Pattern.Check
import PatternCheck.Proofs.Pattern.Moved.Reader

/-
What comes after reading, further on. A moved tree nests as deep as it did
(`Node.depth_moved`), and it means what it did: the matcher has no places
any more, and a fault is the same one further on (`Node.matcher_moved`).
-/

namespace PatternCheck.Pattern

variable {k : Nat}

-- ============================================================= nesting

namespace ClassSet

mutual

/-- A class nests as deep further on. -/
theorem depth_moved : ∀ s : ClassSet, (s.moved k).depth = s.depth
  | .empty _ => by simp only [moved, depth]
  | .literal _ => by simp only [moved, depth]
  | .range _ _ => by simp only [moved, depth]
  | .ascii _ _ _ => by simp only [moved, depth]
  | .shorthand _ _ _ => by simp only [moved, depth]
  | .bracketed _ _ body => by rw [moved, depth, depth, depth_moved body]
  | .union _ items => by rw [moved, depth, depth, depths_moved items]
  | .binary _ _ lhs rhs => by
    rw [moved, depth, depth, depth_moved lhs, depth_moved rhs]

theorem depths_moved :
    ∀ items : List ClassSet, depths (allMoved k items) = depths items
  | [] => rfl
  | x :: rest => by
    rw [allMoved, depths, depths, depth_moved x, depths_moved rest]

end

end ClassSet

namespace Node

mutual

/-- A tree nests as deep further on. -/
theorem depth_moved : ∀ x : Node, (x.moved k).depth = x.depth
  | .empty _ => by simp only [moved, depth]
  | .flags _ _ => by simp only [moved, depth]
  | .dot _ => by simp only [moved, depth]
  | .atom _ => by simp only [moved, depth]
  | .bracketed _ _ body => by rw [moved, depth, depth, body.depth_moved]
  | .repetition _ _ _ body => by rw [moved, depth, depth, depth_moved body]
  | .group _ _ body => by rw [moved, depth, depth, depth_moved body]
  | .alternation _ branches => by
    rw [moved, depth, depth, depths_moved branches]
  | .concat _ items => by rw [moved, depth, depth, depths_moved items]

theorem depths_moved :
    ∀ items : List Node, depths (allMoved k items) = depths items
  | [] => rfl
  | x :: rest => by
    rw [allMoved, depths, depths, depth_moved x, depths_moved rest]

end

end Node

-- ============================================================= meaning

variable {m : Modes}

/-- A complement is refused where the class stands, if it is. -/
theorem negate_moved (n : Nat) (negated : Bool) (s : Unicode.CodeSet) :
    negate m (n + k) negated s
      = Outcome.moved k id (negate m n negated s) := by
  unfold negate
  split
  · rfl
  · dsimp only
    generalize (if negated = true then s.compl else s) = t
    split <;> rfl

/-- A property is known or not; the place is only that of the fault. -/
theorem propertySet_moved (n : Nat) (query : Unicode.PropertyQuery) :
    propertySet m (n + k) query
      = Outcome.moved k id (propertySet m n query) := by
  unfold propertySet
  split
  · rfl
  · split <;> rfl

/-- So it is with all classes by a letter. -/
theorem shorthandSet_moved (n : Nat) (negated : Bool) (kind : Shorthand) :
    shorthandSet m (n + k) negated kind
      = Outcome.moved k id (shorthandSet m n negated kind) := by
  cases kind with
  | digit => exact negate_moved n negated _
  | space => exact negate_moved n negated _
  | word => exact negate_moved n negated _
  | property query =>
      show (propertySet m (n + k) query >>= negate m (n + k) negated) = _
      rw [propertySet_moved]
      exact Outcome.moved_bind fun s => negate_moved n negated s

/-- A character has the same code further on. -/
theorem literalCode_moved (l : Literal) :
    literalCode m (l.moved k) = Outcome.moved k id (literalCode m l) := by
  unfold literalCode
  show (if (!m.unicode && l.byte && 0x7F < l.char.toNat) = true then _ else _)
    = _
  split <;> rfl

theorem classCode_moved (l : Literal) :
    classCode m (l.moved k) = Outcome.moved k id (classCode m l) := by
  unfold classCode
  rw [literalCode_moved]
  refine Outcome.moved_bind fun c => ?_
  simp only [id]
  split <;> rfl

namespace ClassSet

mutual

/-- A class has the same characters further on. -/
theorem intervals_moved : ∀ s : ClassSet,
    (s.moved k).intervals m = Outcome.moved k id (s.intervals m)
  | .empty _ => by simp only [moved, intervals, Outcome.moved_ok, id]
  | .literal l => by
      rw [moved, intervals, intervals, classCode_moved]
      exact Outcome.moved_bind fun _ => rfl
  | .range lo hi => by
      rw [moved, intervals, intervals, classCode_moved, classCode_moved]
      exact Outcome.moved_bind fun _ => Outcome.moved_bind fun _ => rfl
  | .ascii n negated kind => by
      rw [moved, intervals, intervals, negate_moved]
      exact Outcome.moved_bind fun _ => rfl
  | .shorthand n negated kind => by
      rw [moved, intervals, intervals, shorthandSet_moved]
      exact Outcome.moved_bind fun _ => rfl
  | .bracketed n negated body => by
      rw [moved, intervals, intervals, intervals_moved body]
      refine Outcome.moved_bind fun _ => ?_
      rw [negate_moved]
      exact Outcome.moved_bind fun _ => rfl
  | .union _ items => by
    rw [moved, intervals, intervals, intervalsOfAll_moved items]
  | .binary _ op lhs rhs => by
      rw [moved, intervals, intervals, intervals_moved lhs,
        intervals_moved rhs]
      exact Outcome.moved_bind fun _ => Outcome.moved_bind fun _ => rfl

theorem intervalsOfAll_moved : ∀ items : List ClassSet,
    intervalsOfAll m (allMoved k items)
      = Outcome.moved k id (intervalsOfAll m items)
  | [] => rfl
  | x :: rest => by
      rw [allMoved, intervalsOfAll, intervalsOfAll, intervals_moved x,
        intervalsOfAll_moved rest]
      exact Outcome.moved_bind fun _ => Outcome.moved_bind fun _ => rfl

end

end ClassSet

/-- So it has with its complement taken. -/
theorem bracketSet_moved (n : Nat) (negated : Bool) (body : ClassSet) :
    bracketSet m (n + k) negated (body.moved k) =
      Outcome.moved k id (bracketSet m n negated body) := by
  unfold bracketSet
  rw [ClassSet.intervals_moved]
  exact Outcome.moved_bind fun _ => negate_moved n negated _

theorem literalMatcher_moved (l : Literal) :
    literalMatcher m (l.moved k)
      = Outcome.moved k id (literalMatcher m l) := by
  unfold literalMatcher
  rw [literalCode_moved]
  refine Outcome.moved_bind fun _ => ?_
  split <;> rfl

/-- An atom means the same further on. -/
theorem Atom.matcher_moved (a : Atom) :
    (a.moved k).matcher m = Outcome.moved k id (a.matcher m) := by
  cases a with
  | literal l => exact literalMatcher_moved l
  | shorthand n negated kind =>
      show (shorthandSet m (n + k) negated kind).map Matcher.ofSet = _
      rw [shorthandSet_moved]
      exact Outcome.moved_map fun _ => rfl
  | assertion n kind => rfl

namespace Node

mutual

/-- A tree further on means what it means, and if it means nothing, then for
the same cause. -/
theorem matcher_moved (m : Modes) : ∀ x : Node,
    (x.moved k).matcher m = Outcome.moved k id (x.matcher m)
  | .empty _ => by simp only [moved, matcher, Outcome.moved_ok, id]
  | .flags _ _ => by simp only [moved, matcher, Outcome.moved_ok, id]
  | .dot _ => by
      rw [moved, matcher, matcher]
      split <;> rfl
  | .atom a => by
      rw [moved, matcher, matcher, Atom.matcher_moved]
      exact Outcome.moved_bind fun _ => rfl
  | .bracketed n negated body => by
      rw [moved, matcher, matcher, bracketSet_moved]
      exact Outcome.moved_bind fun _ => rfl
  | .repetition _ _ _ body => by
      rw [moved, matcher, matcher, matcher_moved m body]
      exact Outcome.moved_bind fun _ => rfl
  | .group _ kind body => by
      rw [moved]
      unfold matcher
      split
      · rw [matcher_moved _ body]
        exact Outcome.moved_bind fun _ => rfl
      · rw [matcher_moved m body]
        exact Outcome.moved_bind fun _ => rfl
  | .alternation _ branches => by
      rw [moved, matcher, matcher, matchers_moved m branches]
      exact Outcome.moved_bind fun _ => rfl
  | .concat _ items => by
      rw [moved, matcher, matcher, matchers_moved m items]
      exact Outcome.moved_bind fun _ => rfl

/-- Modes go from one tree to the next as before. -/
theorem matchers_moved (m : Modes) : ∀ items : List Node,
    matchers m (allMoved k items) = Outcome.moved k id (matchers m items)
  | [] => rfl
  | x :: rest => by
      rw [allMoved, matchers, matchers, matcher_moved m x]
      refine Outcome.moved_bind fun r => ?_
      show (matchers r.2 (allMoved k rest) >>= _) = _
      rw [matchers_moved r.2 rest]
      exact Outcome.moved_bind fun _ => rfl

end

end Node

end PatternCheck.Pattern
