import PatternCheck.Proofs.Pattern.Located.Reader

/-
What comes after reading reports places of nodes only. A tree whose nodes
all stand at places of the pattern is too deep at one of these places
(`Node.beyond?_isPlace`), and what it means is refused at one of them
(`Node.matcher_located`). With the reader this covers everything that
`analyse` does.
-/

namespace PatternCheck.Pattern

variable {p : List Char}

-- ============================================================= nesting

namespace ClassSet

mutual

/-- A class is too deep at the place of one of its nodes. -/
theorem beyond?_isPlace {room k : Nat} :
    ∀ s : ClassSet, s.Within p → s.beyond? room = some k → IsPlace p k
  | .empty _, _, h => by cases room <;> cases h
  | .literal _, _, h => by cases room <;> cases h
  | .range _ _, _, h => by cases room <;> cases h
  | .ascii _ _ _, _, h => by cases room <;> cases h
  | .shorthand _ _ _, _, h => by cases room <;> cases h
  | .bracketed n _ body, w, h => by
      cases room with
      | zero => cases h; exact w.1
      | succ room => exact beyond?_isPlace body w.2 h
  | .union n items, w, h => by
      cases room with
      | zero => cases h; exact w.1
      | succ room => exact beyonds?_isPlace items w.2 h
  | .binary n _ lhs rhs, w, h => by
      cases room with
      | zero => cases h; exact w.1
      | succ room =>
          rcases Option.or_eq_some_iff.1 h with h | ⟨-, h⟩
          · exact beyond?_isPlace lhs w.2.1 h
          · exact beyond?_isPlace rhs w.2.2 h

theorem beyonds?_isPlace {room k : Nat} :
    ∀ items : List ClassSet, AllWithin p items → beyonds? room items = some k →
      IsPlace p k
  | [], _, h => by cases h
  | x :: rest, w, h => by
      rcases Option.or_eq_some_iff.1 h with h | ⟨-, h⟩
      · exact beyond?_isPlace x w.1 h
      · exact beyonds?_isPlace rest w.2 h

end

end ClassSet

namespace Node

mutual

/-- A pattern is too deep at the place of one of its nodes. -/
theorem beyond?_isPlace {room k : Nat} :
    ∀ x : Node, x.Within p → x.beyond? room = some k → IsPlace p k
  | .empty _, _, h => by cases room <;> cases h
  | .flags _ _, _, h => by cases room <;> cases h
  | .dot _, _, h => by cases room <;> cases h
  | .atom _, _, h => by cases room <;> cases h
  | .bracketed n _ body, w, h => by
      cases room with
      | zero => cases h; exact w.1
      | succ room => exact ClassSet.beyond?_isPlace body w.2 h
  | .repetition n _ _ body, w, h => by
      cases room with
      | zero => cases h; exact w.1
      | succ room => exact beyond?_isPlace body w.2 h
  | .group n _ body, w, h => by
      cases room with
      | zero => cases h; exact w.1
      | succ room => exact beyond?_isPlace body w.2 h
  | .alternation n branches, w, h => by
      cases room with
      | zero => cases h; exact w.1
      | succ room => exact beyonds?_isPlace branches w.2 h
  | .concat n items, w, h => by
      cases room with
      | zero => cases h; exact w.1
      | succ room => exact beyonds?_isPlace items w.2 h

theorem beyonds?_isPlace {room k : Nat} :
    ∀ items : List Node, AllWithin p items → beyonds? room items = some k →
      IsPlace p k
  | [], _, h => by cases h
  | x :: rest, w, h => by
      rcases Option.or_eq_some_iff.1 h with h | ⟨-, h⟩
      · exact beyond?_isPlace x w.1 h
      · exact beyonds?_isPlace rest w.2 h

end

end Node

-- ============================================================= meaning

variable {m : Modes}

/-- A complement that is refused is refused where its class stands. -/
theorem negate_located {n : Nat} {negated : Bool} {s : Unicode.CodeSet}
    (hn : IsPlace p n) : Located p (fun _ => True) (negate m n negated s) := by
  unfold negate
  split
  · trivial
  · dsimp only
    generalize (if negated = true then s.compl else s) = t
    split
    · trivial
    · exact .refuse_at hn rfl

/-- So is a property that nobody knows, and any at all without Unicode. -/
theorem propertySet_located {n : Nat} {query : Unicode.PropertyQuery}
    (hn : IsPlace p n) :
    Located p (fun _ => True) (propertySet m n query) := by
  unfold propertySet
  split
  · exact .refuse_at hn rfl
  · split
    · trivial
    · next e _ => exact .refuse_at hn (by cases e <;> rfl)

/-- So is any class by a letter. -/
theorem shorthandSet_located {n : Nat} {negated : Bool} {kind : Shorthand}
    (hn : IsPlace p n) :
    Located p (fun _ => True) (shorthandSet m n negated kind) := by
  cases kind with
  | digit => exact negate_located hn
  | space => exact negate_located hn
  | word => exact negate_located hn
  | property query =>
      exact (propertySet_located hn).bind fun _ _ => negate_located hn

/-- A character that does not fit the mode is refused where it stands. -/
theorem literalCode_located {l : Literal} (hl : IsPlace p l.pos) :
    Located p (fun _ => True) (literalCode m l) := by
  unfold literalCode
  split
  · exact .refuse_at hl rfl
  · trivial

theorem classCode_located {l : Literal} (hl : IsPlace p l.pos) :
    Located p (fun _ => True) (classCode m l) := by
  refine (literalCode_located hl).bind fun c _ => ?_
  split
  · exact .refuse_at hl rfl
  · trivial

namespace ClassSet

mutual

/-- A fault in a class is one of the things in it. -/
theorem intervals_located :
    ∀ s : ClassSet, s.Within p → Located p (fun _ => True) (s.intervals m)
  | .empty _, _ => trivial
  | .literal _, w => (classCode_located w).bind fun _ _ => trivial
  | .range _ _, w =>
      (classCode_located w.1).bind fun _ _ =>
        (classCode_located w.2).bind fun _ _ => trivial
  | .ascii _ _ _, w => (negate_located w).bind fun _ _ => trivial
  | .shorthand _ _ _, w => (shorthandSet_located w).bind fun _ _ => trivial
  | .bracketed _ _ body, w =>
      (intervals_located body w.2).bind fun _ _ =>
        (negate_located w.1).bind fun _ _ => trivial
  | .union _ items, w => intervalsOfAll_located items w.2
  | .binary _ _ lhs rhs, w =>
      (intervals_located lhs w.2.1).bind fun _ _ =>
        (intervals_located rhs w.2.2).bind fun _ _ => trivial

theorem intervalsOfAll_located :
    ∀ items : List ClassSet, AllWithin p items →
      Located p (fun _ => True) (intervalsOfAll m items)
  | [], _ => trivial
  | x :: rest, w =>
      (intervals_located x w.1).bind fun _ _ =>
        (intervalsOfAll_located rest w.2).bind fun _ _ => trivial

end

end ClassSet

/-- Its complement may be refused at the bracket. -/
theorem bracketSet_located {n : Nat} {negated : Bool} {body : ClassSet}
    (hn : IsPlace p n) (hb : body.Within p) :
    Located p (fun _ => True) (bracketSet m n negated body) :=
  (ClassSet.intervals_located body hb).bind fun _ _ => negate_located hn

/-- An atom that means nothing is refused where it stands. -/
theorem Atom.matcher_located {a : Atom} (ha : IsPlace p a.pos) :
    Located p (fun _ => True) (a.matcher m) := by
  cases a with
  | literal l =>
      refine (literalCode_located ha).bind fun c _ => ?_
      split <;> trivial
  | shorthand n negated kind =>
      exact (shorthandSet_located ha).map fun _ _ => trivial
  | assertion n kind => trivial

namespace Node

mutual

/-- What a tree means is refused at the place of one of its nodes. -/
theorem matcher_located {m : Modes} :
    ∀ x : Node, x.Within p → Located p (fun _ => True) (x.matcher m)
  | .empty _, _ => trivial
  | .flags _ _, _ => trivial
  | .dot _, w => by
      unfold matcher
      split
      · trivial
      · exact .refuse_at w rfl
  | .atom _, w => (Atom.matcher_located w).bind fun _ _ => trivial
  | .bracketed _ _ _, w => (bracketSet_located w.1 w.2).bind fun _ _ => trivial
  | .repetition _ _ _ body, w =>
      (matcher_located body w.2).bind fun _ _ => trivial
  | .group _ kind body, w => by
      unfold matcher
      split
      · exact (matcher_located body w.2).bind fun _ _ => trivial
      · exact (matcher_located body w.2).bind fun _ _ => trivial
  | .alternation _ branches, w =>
      (matchers_located branches w.2).bind fun _ _ => trivial
  | .concat _ items, w => (matchers_located items w.2).bind fun _ _ => trivial

theorem matchers_located {m : Modes} :
    ∀ items : List Node, AllWithin p items →
      Located p (fun _ => True) (matchers m items)
  | [], _ => trivial
  | x :: rest, w =>
      (matcher_located x w.1).bind fun _ _ =>
        (matchers_located rest w.2).bind fun _ _ => trivial

end

end Node

-- ============================================================ analysis

/-- Whatever is wrong with a pattern shows at a place of it, at a
character that the cause names if it names any. -/
theorem analyse_located (nesting : Nat) (p : List Char) :
    Located p (fun _ => True) (analyse nesting p) := by
  refine (Node.ofPattern_located p).bind fun x hx => ?_
  split
  · next n hn => exact .refuse_at (Node.beyond?_isPlace x hx hn) rfl
  · exact (Node.matcher_located x hx).bind fun _ _ => trivial

end PatternCheck.Pattern
