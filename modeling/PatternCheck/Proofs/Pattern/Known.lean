import PatternCheck.Pattern.Meaning

/-
Trees that mean something. As long as Unicode is on, the only thing that
can be wrong with the meaning of a tree is that it asks for a property
that nobody knows. A tree that does not, and that never switches Unicode
off, is `Known`; it means something in every mode that knows Unicode,
and the modes after it know Unicode still (`Node.Known.matcher`).
-/

namespace PatternCheck.Pattern

-- ============================================================== success

/-- Something comes out, and it is good. -/
def Succeeds {α : Type} (good : α → Prop) (x : Except Fault α) : Prop :=
  ∃ a, x = .ok a ∧ good a

namespace Succeeds

variable {α β : Type} {good : α → Prop} {better : β → Prop}
  {x : Except Fault α}

/-- What is there has come out. -/
theorem of_ok {a : α} (h : good a) : Succeeds good (.ok a) := ⟨a, rfl, h⟩

/-- Of two steps, the second has to come out for all that is good after the
first. -/
theorem bind {f : α → Except Fault β} (hx : Succeeds good x)
    (hf : ∀ a, good a → Succeeds better (f a)) :
    Succeeds better (x >>= f) := by
  obtain ⟨a, rfl, ha⟩ := hx
  exact hf a ha

/-- A step that cannot fail has only to keep what is good. -/
theorem map {f : α → β} (hx : Succeeds good x)
    (hf : ∀ a, good a → better (f a)) : Succeeds better (x.map f) := by
  obtain ⟨a, rfl, ha⟩ := hx
  exact ⟨f a, rfl, hf a ha⟩

end Succeeds

/-- Whatever comes out is good. -/
abbrev Anything {α : Type} (_ : α) : Prop := True

-- ============================================================== classes

/-- A property of the class, if it asks for one, has characters. -/
def Shorthand.Known : Shorthand → Prop
  | .property query => ∃ s, query.lookup = .ok s
  | _ => True

variable {m : Modes} {n : Nat}

/-- Without Unicode a complement would have bytes that are no characters in
it. -/
theorem negate_succeeds (hm : m.unicode = true) (negated : Bool)
    (s : Unicode.CodeSet) : Succeeds Anything (negate m n negated s) := by
  rw [negate, if_pos hm]
  exact .of_ok trivial

/-- Of the classes by a letter only properties can be unknown. -/
theorem Shorthand.Known.set (hm : m.unicode = true) {kind : Shorthand}
    (negated : Bool) (h : kind.Known) :
    Succeeds Anything (shorthandSet m n negated kind) := by
  cases kind with
  | digit => exact negate_succeeds hm negated _
  | space => exact negate_succeeds hm negated _
  | word => exact negate_succeeds hm negated _
  | property query =>
      obtain ⟨s, hs⟩ := h
      have found : propertySet m n query = .ok (m.fold s) := by
        simp [propertySet, hm, hs]
      rw [shorthandSet, found]
      exact negate_succeeds hm negated _

/-- With Unicode every character has a code. -/
theorem literalCode_succeeds (hm : m.unicode = true) (l : Literal) :
    Succeeds Anything (literalCode m l) := by
  rw [literalCode, hm]
  exact .of_ok trivial

theorem classCode_succeeds (hm : m.unicode = true) (l : Literal) :
    Succeeds Anything (classCode m l) := by
  refine (literalCode_succeeds hm l).bind fun c _ => ?_
  rw [hm]
  exact .of_ok trivial

namespace ClassSet

mutual

/-- No class in the set asks for anything unknown. -/
def Known : ClassSet → Prop
  | .shorthand _ _ kind => kind.Known
  | .bracketed _ _ body => body.Known
  | .union _ items => AllKnown items
  | .binary _ _ lhs rhs => lhs.Known ∧ rhs.Known
  | _ => True

/-- The same for several sets. -/
def AllKnown : List ClassSet → Prop
  | [] => True
  | x :: rest => x.Known ∧ AllKnown rest

end

mutual

/-- A known class has a set of characters. -/
theorem Known.intervals (hm : m.unicode = true) :
    ∀ {s : ClassSet}, s.Known → Succeeds Anything (s.intervals m)
  | .empty _, _ => .of_ok trivial
  | .literal l, _ => (classCode_succeeds hm l).bind fun _ _ => .of_ok trivial
  | .range lo hi, _ => (classCode_succeeds hm lo).bind fun _ _ =>
      (classCode_succeeds hm hi).bind fun _ _ => .of_ok trivial
  | .ascii _ negated _, _ =>
      (negate_succeeds hm negated _).bind fun _ _ => .of_ok trivial
  | .shorthand _ negated _, h =>
      (Shorthand.Known.set hm negated h).bind fun _ _ => .of_ok trivial
  | .bracketed _ negated body, h =>
      (Known.intervals hm (s := body) h).bind fun _ _ =>
      (negate_succeeds hm negated _).bind fun _ _ => .of_ok trivial
  | .union _ items, h => AllKnown.intervals hm (l := items) h
  | .binary _ _ lhs rhs, h =>
      (Known.intervals hm (s := lhs) h.1).bind fun _ _ =>
      (Known.intervals hm (s := rhs) h.2).bind fun _ _ => .of_ok trivial

theorem AllKnown.intervals (hm : m.unicode = true) :
    ∀ {l : List ClassSet}, AllKnown l → Succeeds Anything (intervalsOfAll m l)
  | [], _ => .of_ok trivial
  | x :: rest, h => (Known.intervals hm (s := x) h.1).bind fun _ _ =>
      (AllKnown.intervals hm (l := rest) h.2).bind fun _ _ => .of_ok trivial

end

end ClassSet

-- ============================================================= patterns

/-- A change of flags that leaves Unicode on. -/
def FlagChanges.KeepUnicode (changes : FlagChanges) : Prop :=
  (Flag.unicode, false) ∉ changes

/-- Modes that know Unicode still do after changes that keep it. -/
theorem FlagChanges.KeepUnicode.apply {changes : FlagChanges}
    (h : changes.KeepUnicode) (hm : m.unicode = true) :
    (m.apply changes).unicode = true := by
  unfold Modes.apply
  induction changes generalizing m with
  | nil => exact hm
  | cons change rest ih =>
      rw [FlagChanges.KeepUnicode, List.mem_cons, not_or] at h
      refine ih h.2 ?_
      obtain ⟨f, b⟩ := change
      cases f with
      | unicode =>
          cases b with
          | false => exact absurd rfl h.1
          | true => rfl
      | _ => exact hm

/-- What a group says about flags leaves Unicode on. -/
def GroupKind.KeepsUnicode : GroupKind → Prop
  | .flagged changes => changes.KeepUnicode
  | _ => True

/-- An atom does not ask for anything unknown. -/
def Atom.Known : Atom → Prop
  | .shorthand _ _ kind => kind.Known
  | _ => True

/-- A known atom means something. -/
theorem Atom.Known.matcher (hm : m.unicode = true) {a : Atom} (h : a.Known) :
    Succeeds Anything (a.matcher m) := by
  cases a with
  | literal l =>
      refine (literalCode_succeeds hm l).bind fun _ _ => ?_
      split <;> exact .of_ok trivial
  | shorthand _ negated kind =>
      exact (Shorthand.Known.set hm negated h).map fun _ _ => trivial
  | assertion _ _ => exact .of_ok trivial

namespace Node

mutual

/-- No part of the tree asks for anything unknown or switches Unicode
off. -/
def Known : Node → Prop
  | .flags _ changes => changes.KeepUnicode
  | .atom a => a.Known
  | .bracketed _ _ body => body.Known
  | .repetition _ _ _ body => body.Known
  | .group _ kind body => kind.KeepsUnicode ∧ body.Known
  | .alternation _ branches => AllKnown branches
  | .concat _ items => AllKnown items
  | _ => True

/-- The same for several trees. -/
def AllKnown : List Node → Prop
  | [] => True
  | x :: rest => x.Known ∧ AllKnown rest

end

theorem allKnown_append {xs ys : List Node} :
    AllKnown (xs ++ ys) ↔ AllKnown xs ∧ AllKnown ys := by
  induction xs with
  | nil => simp [AllKnown]
  | cons x xs ih => simp [AllKnown, ih, and_assoc]

/-- A sequence of known trees is known. -/
theorem AllKnown.ofItems {items : List Node} (h : AllKnown items) (n : Nat) :
    (Node.ofItems n items).Known := by
  cases items with
  | nil => trivial
  | cons x rest =>
      cases rest with
      | nil => exact h.1
      | cons _ _ => exact h

/-- A meaning, and modes after it that know Unicode. -/
abbrev KeepsUnicode {α : Type} (r : α × Modes) : Prop := r.2.unicode = true

mutual

/-- A known tree means something wherever Unicode is on. -/
theorem Known.matcher {m : Modes} (hm : m.unicode = true) :
    ∀ {x : Node}, x.Known → Succeeds KeepsUnicode (x.matcher m)
  | .empty _, _ => .of_ok hm
  | .flags _ _, h => .of_ok (FlagChanges.KeepUnicode.apply h hm)
  | .dot _, _ => by
      rw [Node.matcher, if_pos hm]
      exact .of_ok hm
  | .atom a, h => (Atom.Known.matcher hm (a := a) h).bind fun _ _ => .of_ok hm
  | .bracketed _ negated body, h =>
      ((ClassSet.Known.intervals hm (s := body) h).bind fun _ _ =>
        negate_succeeds hm negated _).bind fun _ _ => .of_ok hm
  | .repetition _ _ _ body, h =>
      (Known.matcher hm (x := body) h).bind fun _ after => .of_ok after
  | .group _ .capture body, h =>
      (Known.matcher hm (x := body) h.2).bind fun _ _ => .of_ok hm
  | .group _ (.named _) body, h =>
      (Known.matcher hm (x := body) h.2).bind fun _ _ => .of_ok hm
  -- the flags of a group hold inside it; after it the modes are as before
  | .group _ (.flagged _) body, h =>
      (Known.matcher (FlagChanges.KeepUnicode.apply h.1 hm) (x := body)
        h.2).bind
        fun _ _ => .of_ok hm
  | .alternation _ branches, h =>
      (AllKnown.matchers hm (l := branches) h).bind fun _ after => .of_ok after
  | .concat _ items, h =>
      (AllKnown.matchers hm (l := items) h).bind fun _ after => .of_ok after

/-- The same for trees side by side. -/
theorem AllKnown.matchers {m : Modes} (hm : m.unicode = true) :
    ∀ {l : List Node}, AllKnown l → Succeeds KeepsUnicode (Node.matchers m l)
  | [], _ => .of_ok hm
  | x :: rest, h => (Known.matcher hm (x := x) h.1).bind fun _ next =>
      (AllKnown.matchers next (l := rest) h.2).bind fun _ after => .of_ok after

end

end Node

end PatternCheck.Pattern
