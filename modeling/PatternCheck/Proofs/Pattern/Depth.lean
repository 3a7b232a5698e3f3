import PatternCheck.Pattern.Depth
import Mathlib.Order.Lattice

/-
How `depth` and `beyond?` go together: there is a node beyond a limit
exactly if the limit is below the depth.
-/

namespace PatternCheck.Pattern

namespace ClassSet

mutual

/-- There is no first class beyond the room where the classes nest no
deeper. -/
theorem beyond?_eq_none_iff (room : Nat) :
    ∀ s : ClassSet, s.beyond? room = none ↔ s.depth ≤ room
  | .empty _ => by cases room <;> simp [beyond?, depth]
  | .literal _ => by cases room <;> simp [beyond?, depth]
  | .range _ _ => by cases room <;> simp [beyond?, depth]
  | .ascii _ _ _ => by cases room <;> simp [beyond?, depth]
  | .shorthand _ _ _ => by cases room <;> simp [beyond?, depth]
  | .bracketed _ _ body => by
      cases room with
      | zero => simp [beyond?, depth]
      | succ room => simp [beyond?, depth, beyond?_eq_none_iff room body]
  | .union _ items => by
      cases room with
      | zero => simp [beyond?, depth]
      | succ room => simp [beyond?, depth, beyonds?_eq_none_iff room items]
  | .binary _ _ lhs rhs => by
      cases room with
      | zero => simp [beyond?, depth]
      | succ room =>
          simp [beyond?, depth, beyond?_eq_none_iff room lhs,
            beyond?_eq_none_iff room rhs]

theorem beyonds?_eq_none_iff (room : Nat) :
    ∀ items : List ClassSet, beyonds? room items = none ↔ depths items ≤ room
  | [] => by simp [beyonds?, depths]
  | x :: rest => by
      simp [beyonds?, depths, beyond?_eq_none_iff room x,
        beyonds?_eq_none_iff room rest]

end

end ClassSet

namespace Node

mutual

/-- Nothing lies beyond a limit exactly if the depth is within it. -/
theorem beyond?_eq_none_iff (room : Nat) :
    ∀ x : Node, x.beyond? room = none ↔ x.depth ≤ room
  | .empty _ => by cases room <;> simp [beyond?, depth]
  | .flags _ _ => by cases room <;> simp [beyond?, depth]
  | .dot _ => by cases room <;> simp [beyond?, depth]
  | .atom _ => by cases room <;> simp [beyond?, depth]
  | .bracketed _ _ body => by
      cases room with
      | zero => simp [beyond?, depth]
      | succ room =>
          simp [beyond?, depth, ClassSet.beyond?_eq_none_iff room body]
  | .repetition _ _ _ body => by
      cases room with
      | zero => simp [beyond?, depth]
      | succ room => simp [beyond?, depth, beyond?_eq_none_iff room body]
  | .group _ _ body => by
      cases room with
      | zero => simp [beyond?, depth]
      | succ room => simp [beyond?, depth, beyond?_eq_none_iff room body]
  | .alternation _ branches => by
      cases room with
      | zero => simp [beyond?, depth]
      | succ room => simp [beyond?, depth, beyonds?_eq_none_iff room branches]
  | .concat _ items => by
      cases room with
      | zero => simp [beyond?, depth]
      | succ room => simp [beyond?, depth, beyonds?_eq_none_iff room items]

/-- The same for several trees. -/
theorem beyonds?_eq_none_iff (room : Nat) :
    ∀ items : List Node, beyonds? room items = none ↔ depths items ≤ room
  | [] => by simp [beyonds?, depths]
  | x :: rest => by
      simp [beyonds?, depths, beyond?_eq_none_iff room x,
        beyonds?_eq_none_iff room rest]

end

/-- Items are as deep as the deepest of them, or one level deeper. -/
theorem depth_ofItems (n : Nat) (items : List Node) :
    depths items ≤ (ofItems n items).depth
      ∧ (ofItems n items).depth ≤ depths items + 1 := by
  match items with
  | [] => exact ⟨Nat.le_refl _, Nat.zero_le _⟩
  | [x] => simp [ofItems, depths]
  | x :: y :: rest => simp [ofItems, depth]

end Node

end PatternCheck.Pattern
