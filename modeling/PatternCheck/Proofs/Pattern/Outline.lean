import PatternCheck.Proofs.Pattern.Depth

/-
Trees as lists in reading order. An `outline` names every node once, a
node before what is inside it and the left before the right, with the
level it lies at and the place where it starts. What the nesting check
reports is the first node of the outline at the first forbidden level
(`Node.beyond?_eq_first`), and the levels that occur are those up to the
depth of the tree (`Node.exists_level_iff`).
-/

namespace PatternCheck.Pattern

/-- A node of a tree, as its outline shows it. -/
structure Rung where
  level : Nat
  pos : Nat
deriving Repr, DecidableEq

-- ============================================================ outlines

namespace ClassSet

mutual

/-- The nodes of a set that lies inside `outer` levels. -/
def outline (outer : Nat) : ClassSet → List Rung
  | .bracketed p _ body => ⟨outer + 1, p⟩ :: body.outline (outer + 1)
  | .union p items => ⟨outer + 1, p⟩ :: outlines (outer + 1) items
  | .binary p _ lhs rhs =>
    ⟨outer + 1, p⟩ :: (lhs.outline (outer + 1) ++ rhs.outline (outer + 1))
  | .empty p => [⟨outer, p⟩]
  | .literal l => [⟨outer, l.pos⟩]
  | .range lo _ => [⟨outer, lo.pos⟩]
  | .ascii p _ _ => [⟨outer, p⟩]
  | .shorthand p _ _ => [⟨outer, p⟩]

/-- The nodes of several sets side by side. -/
def outlines (outer : Nat) : List ClassSet → List Rung
  | [] => []
  | x :: rest => x.outline outer ++ outlines outer rest

end

end ClassSet

namespace Node

mutual

/-- The nodes of a pattern that lies inside `outer` levels. -/
def outline (outer : Nat) : Node → List Rung
  | .bracketed p _ body => ⟨outer + 1, p⟩ :: body.outline (outer + 1)
  | .repetition p _ _ body => ⟨outer + 1, p⟩ :: body.outline (outer + 1)
  | .group p _ body => ⟨outer + 1, p⟩ :: body.outline (outer + 1)
  | .alternation p branches => ⟨outer + 1, p⟩ :: outlines (outer + 1) branches
  | .concat p items => ⟨outer + 1, p⟩ :: outlines (outer + 1) items
  | .empty p => [⟨outer, p⟩]
  | .flags p _ => [⟨outer, p⟩]
  | .dot p => [⟨outer, p⟩]
  | .atom a => [⟨outer, a.pos⟩]

/-- The nodes of several patterns side by side. -/
def outlines (outer : Nat) : List Node → List Rung
  | [] => []
  | x :: rest => x.outline outer ++ outlines outer rest

end

end Node

-- ======================================================= the first node

/-- Where the first node at a level starts. -/
def firstAt? (level : Nat) (rungs : List Rung) : Option Nat :=
  (rungs.find? (·.level = level)).map Rung.pos

section FirstAt

variable {level outer p room : Nat} {rungs : List Rung}

theorem firstAt?_append (xs ys : List Rung) :
    firstAt? level (xs ++ ys)
      = (firstAt? level xs).or (firstAt? level ys) := by
  rw [firstAt?, List.find?_append, Option.map_or]
  rfl

/-- A node that adds a level is the first one at it. -/
theorem firstAt?_enter :
    firstAt? (outer + 0 + 1) (⟨outer + 1, p⟩ :: rungs) = some p := by
  simp [firstAt?]

/-- A node that adds a level is not at any level further in. -/
theorem firstAt?_within :
    firstAt? (outer + (room + 1) + 1) (⟨outer + 1, p⟩ :: rungs) =
      firstAt? (outer + 1 + room + 1) rungs := by
  -- seen from inside the node, the level asked for is one nearer
  have level : outer + (room + 1) + 1 = outer + 1 + room + 1 := by omega
  have apart : ¬ outer + 1 = outer + 1 + room + 1 := by omega
  rw [level, firstAt?, List.find?_cons_of_neg (by simpa using apart)]
  rfl

/-- A node that adds no level is not at any level further in. -/
theorem firstAt?_leaf (h : outer < level) :
    firstAt? level [⟨outer, p⟩] = none := by
  simp [firstAt?, Nat.ne_of_lt h]

end FirstAt

namespace ClassSet

mutual

theorem beyond?_eq_first (room outer : Nat) :
    ∀ s : ClassSet, s.beyond? room
      = firstAt? (outer + room + 1) (s.outline outer)
  | .empty _ => by cases room <;> exact (firstAt?_leaf (by omega)).symm
  | .literal _ => by cases room <;> exact (firstAt?_leaf (by omega)).symm
  | .range _ _ => by cases room <;> exact (firstAt?_leaf (by omega)).symm
  | .ascii _ _ _ => by cases room <;> exact (firstAt?_leaf (by omega)).symm
  | .shorthand _ _ _ => by cases room <;> exact (firstAt?_leaf (by omega)).symm
  | .bracketed _ _ body => by
      cases room with
      | zero => exact firstAt?_enter.symm
      | succ room =>
          exact (beyond?_eq_first room (outer + 1) body).trans
            firstAt?_within.symm
  | .union _ items => by
      cases room with
      | zero => exact firstAt?_enter.symm
      | succ room =>
          exact (beyonds?_eq_first room (outer + 1) items).trans
            firstAt?_within.symm
  | .binary _ _ lhs rhs => by
      cases room with
      | zero => exact firstAt?_enter.symm
      | succ room =>
          rw [beyond?, outline, firstAt?_within, firstAt?_append,
            beyond?_eq_first room (outer + 1) lhs,
            beyond?_eq_first room (outer + 1) rhs]

theorem beyonds?_eq_first (room outer : Nat) :
    ∀ items : List ClassSet,
      beyonds? room items = firstAt? (outer + room + 1) (outlines outer items)
  | [] => rfl
  | x :: rest => by
      rw [beyonds?, outlines, firstAt?_append, beyond?_eq_first room outer x,
        beyonds?_eq_first room outer rest]

end

end ClassSet

namespace Node

mutual

/-- What lies beyond a limit is the first node, in reading order, at the
level after it. -/
theorem beyond?_eq_first (room outer : Nat) :
    ∀ x : Node, x.beyond? room = firstAt? (outer + room + 1) (x.outline outer)
  | .empty _ => by cases room <;> exact (firstAt?_leaf (by omega)).symm
  | .flags _ _ => by cases room <;> exact (firstAt?_leaf (by omega)).symm
  | .dot _ => by cases room <;> exact (firstAt?_leaf (by omega)).symm
  | .atom _ => by cases room <;> exact (firstAt?_leaf (by omega)).symm
  | .bracketed _ _ body => by
      cases room with
      | zero => exact firstAt?_enter.symm
      | succ room =>
          exact (ClassSet.beyond?_eq_first room (outer + 1) body).trans
            firstAt?_within.symm
  | .repetition _ _ _ body => by
      cases room with
      | zero => exact firstAt?_enter.symm
      | succ room =>
          exact (beyond?_eq_first room (outer + 1) body).trans
            firstAt?_within.symm
  | .group _ _ body => by
      cases room with
      | zero => exact firstAt?_enter.symm
      | succ room =>
          exact (beyond?_eq_first room (outer + 1) body).trans
            firstAt?_within.symm
  | .alternation _ branches => by
      cases room with
      | zero => exact firstAt?_enter.symm
      | succ room =>
          exact (beyonds?_eq_first room (outer + 1) branches).trans
            firstAt?_within.symm
  | .concat _ items => by
      cases room with
      | zero => exact firstAt?_enter.symm
      | succ room =>
          exact (beyonds?_eq_first room (outer + 1) items).trans
            firstAt?_within.symm

/-- The same for several patterns side by side. -/
theorem beyonds?_eq_first (room outer : Nat) :
    ∀ items : List Node,
      beyonds? room items = firstAt? (outer + room + 1) (outlines outer items)
  | [] => rfl
  | x :: rest => by
      rw [beyonds?, outlines, firstAt?_append, beyond?_eq_first room outer x,
        beyonds?_eq_first room outer rest]

end

/-- The levels that nodes of a tree lie at go as far as its depth. -/
theorem exists_level_iff (x : Node) (n outer : Nat) :
    (∃ r ∈ x.outline outer, r.level = outer + n + 1) ↔ n < x.depth := by
  have none : firstAt? (outer + n + 1) (x.outline outer) = .none ↔
      ∀ r ∈ x.outline outer, r.level ≠ outer + n + 1 := by
    simp [firstAt?]
  rw [← Nat.not_le, ← beyond?_eq_none_iff, x.beyond?_eq_first n outer, none]
  simp

end Node

end PatternCheck.Pattern
