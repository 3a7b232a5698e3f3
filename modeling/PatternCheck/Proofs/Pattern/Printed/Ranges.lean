import PatternCheck.Proofs.Pattern.Printed.Steps

/-
Bracketed lists of ranges. Between the brackets the ends of the ranges
are escaped, so the only characters that mean something there are the
dashes between them. One range is one item of the class (`run_range`),
and the closing bracket makes the class an item of the pattern.
-/

namespace PatternCheck.Pattern

open Text.Utf8 (length length_cons length_nil length_append)

variable {rest : List Char} {n : Nat}

-- ============================================================== ranges

/-- The characters from one to another one that does not come before it. -/
structure CharRange where
  lo : Char
  hi : Char
  ordered : lo ≤ hi

namespace CharRange

/-- A range in brackets. -/
def chars (r : CharRange) : List Char :=
  escapeChar r.lo ++ '-' :: escapeChar r.hi

/-- The tree of a range that stands at `n`. -/
def item (r : CharRange) (n : Nat) : ClassSet :=
  .range { pos := n, char := r.lo }
    { pos := n + length (escapeChar r.lo) + 1, char := r.hi }

/-- The trees of ranges that stand side by side, the first one at `n`. -/
def items (n : Nat) : List CharRange → List ClassSet
  | [] => []
  | r :: rs => r.item n :: items (n + length r.chars) rs

/-- A range begins like the character it begins with. -/
theorem chars_cons (r : CharRange) :
    ∃ x tail, r.chars = x :: tail ∧ BeginsEscaped x := by
  obtain ⟨x, tail, hx, hb⟩ := escapeChar_cons r.lo
  exact ⟨x, tail ++ '-' :: escapeChar r.hi, by rw [chars, hx,
    List.cons_append], hb⟩

end CharRange

/-- Two escaped characters with a dash between them are read as the range
between the characters, which may be none. -/
theorem readItem_escaped (a b : Char) (opened : Nat) :
    readItem false opened ⟨escapeChar a ++ '-' :: (escapeChar b ++ rest), n⟩ =
      (rangeItem (.literal { pos := n, char := a })
        (.literal { pos := n + length (escapeChar a) + 1, char := b })).map
        fun item =>
          (item,
            ⟨rest,
              n + length (escapeChar a) + 1 + length (escapeChar b)⟩) := by
  obtain ⟨y, tail, hy, hb⟩ := escapeChar_cons b
  -- before a bracket or another dash the dash would not make a range
  have noClose : y ≠ ']' := hb.ne (by simp [specials]) (by decide)
  have noDash : y ≠ '-' := hb.ne (by simp [specials]) (by decide)
  have bound :
      Atom.read false
      ⟨y :: (tail ++ rest), n + length (escapeChar a) + '-'.utf8Size⟩ = _ :=
    (congrArg (fun cs =>
      Atom.read false ⟨cs ++ rest, n + length (escapeChar a) + 1⟩)
        hy).symm.trans
      (Atom.read_escapeChar b rest (n + length (escapeChar a) + 1))
  unfold readItem
  rw [Atom.read_escapeChar, hy, List.cons_append]
  simp [Cursor.space_false, Cursor.step_false, Cursor.advance_cons, peekPast,
    noClose, noDash, bound]
  rw [hy, length_cons]

/-- A range is one item. -/
theorem readItem_range (r : CharRange) (opened : Nat) :
    readItem false opened ⟨r.chars ++ rest, n⟩
      = .ok (r.item n, ⟨rest, n + length r.chars⟩) := by
  have ordered : ¬ r.hi < r.lo := Char.not_lt.2 r.ordered
  have width : n + length r.chars =
      n + length (escapeChar r.lo) + 1 + length (escapeChar r.hi) := by
    simp only [CharRange.chars, length_append, length_cons, Nat.add_assoc]
    rfl
  rw [width, CharRange.chars, List.append_assoc, List.cons_append,
    readItem_escaped]
  simp only [rangeItem, Atom.toBound, bind, Except.bind, if_neg ordered]
  rfl

namespace State

/-- A state inside of a class that stands in no other one. -/
def inside (cs : List Char) (n : Nat) (l : Level) (gs : List OpenGroup)
    (names : List String) (o : OpenClass) : State :=
  { outside cs n l gs names with classes := [o] }

variable {l : Level} {gs : List OpenGroup} {names : List String}
  {o : OpenClass}

/-- What follows the bracket of a class that is a complement or not. -/
def caret (negated : Bool) : List Char := if negated then ['^'] else []

theorem nextOutside_class {s : State} {o : OpenClass} {after : Cursor}
    (h : OpenClass.read s.verbose ⟨'[' :: rest, n⟩ = .ok (o, after)) :
    s.nextOutside ⟨'[' :: rest, n⟩
      = .ok (.more { s with cursor := after, classes := [o] }) := by
  simp only [nextOutside, h]

/-- A class is opened whose first item begins like an escaped character. -/
theorem run_openClass {x : Char} (hx : BeginsEscaped x) (negated : Bool) :
    (outside ('[' :: (caret negated ++ x :: rest)) n l gs names).run =
      (inside (x :: rest) (n + 1 + length (caret negated)) l gs names
        { pos := n, negated, pending := none,
          itemsPos := n + 1 + length (caret negated)
          items := [] }).run := by
  have noDash : x ≠ '-' := hx.ne (by simp [specials]) (by decide)
  have noClose : x ≠ ']' := hx.ne (by simp [specials]) (by decide)
  have noCaret : x ≠ '^' := hx.ne (by simp [specials]) (by decide)
  have leading (k : Nat) :
      OpenClass.readLeading false n negated ⟨x :: rest, k⟩ =
        .ok ({ pos := n, negated, pending := none
               itemsPos := k
               items := [] }, ⟨x :: rest, k⟩) := by
    simp [OpenClass.readLeading, Cursor.collect, Cursor.run, noDash, noClose]
  have opened : OpenClass.read false ⟨'[' :: (caret negated ++ x :: rest), n⟩ =
      .ok ({ pos := n, negated, pending := none,
             itemsPos := n + 1 + length (caret negated)
             items := [] }, ⟨x :: rest, n + 1 + length (caret negated)⟩) := by
    cases negated with
    | true => exact leading (n + 2)
    | false =>
        have read : OpenClass.read false ⟨'[' :: x :: rest, n⟩ =
            OpenClass.readLeading false n false
            ⟨x :: rest, n + '['.utf8Size⟩ := by
          simp [OpenClass.read, Cursor.step_false, Cursor.advance_cons,
            noCaret]
        exact read.trans (leading (n + 1))
  exact run_of_more (nextOutside_class opened)

/-- Where no operator stands an item of the class is read. -/
theorem nextInside_item {s : State} {outer : List OpenClass} {x : Char}
    (hx : BeginsEscaped x) :
    s.nextInside o outer ⟨x :: rest, n⟩
      = (readItem s.verbose o.pos ⟨x :: rest, n⟩).map
      fun r => { s with cursor := r.2, classes := o.push r.1 :: outer } := by
  have noOpen : x ≠ '[' := hx.ne (by simp [specials]) (by decide)
  have noClose : x ≠ ']' := hx.ne (by simp [specials]) (by decide)
  have noOp : setOp? (x :: rest) = none := by
    have h1 : x ≠ '&' := hx.ne (by simp [specials]) (by decide)
    have h2 : x ≠ '-' := hx.ne (by simp [specials]) (by decide)
    have h3 : x ≠ '~' := hx.ne (by simp [specials]) (by decide)
    simp [setOp?, h1, h2, h3]
  unfold nextInside
  split
  · next e => cases e
  · next e => exact absurd (List.cons.inj e).1 noOpen
  · next e => exact absurd (List.cons.inj e).1 noClose
  · rw [noOp]
    cases readItem s.verbose o.pos ⟨x :: rest, n⟩ <;> rfl

/-- One range becomes one item of the class. -/
theorem run_range (r : CharRange) :
    (inside (r.chars ++ rest) n l gs names o).run =
    (inside rest (n + length r.chars) l gs names (o.push (r.item n))).run := by
  obtain ⟨x, tail, hr, hx⟩ := r.chars_cons
  have item : readItem false o.pos ⟨r.chars ++ rest, n⟩ = _ :=
    readItem_range r o.pos
  rw [hr, List.cons_append] at item ⊢
  have next : (inside (x :: (tail ++ rest)) n l gs names o).nextInside o []
      ⟨x :: (tail ++ rest),
        n⟩ = .ok (inside rest (n + length (x :: tail)) l gs names
        (o.push (r.item n))) :=
    (nextInside_item hx).trans (congrArg (Except.map _) item)
  exact run_of_more (congrArg (Except.map Step.more) next)

/-- All ranges of a list, up to the closing bracket. -/
theorem run_ranges (rs : List CharRange) : ∀ {n : Nat} {o : OpenClass},
    (inside (rs.flatMap CharRange.chars ++ rest) n l gs names o).run =
      (inside rest (n + length (rs.flatMap CharRange.chars)) l gs names
        { o with items :=
            (CharRange.items n rs).reverse ++ o.items }).run := by
  induction rs with
  | nil => intro n o; rfl
  | cons r rs ih =>
      intro n o
      rw [List.flatMap_cons, List.append_assoc, run_range, ih, length_append,
        Nat.add_assoc]
      simp [CharRange.items, OpenClass.push]

theorem run_closeClass : (inside (']' :: rest) n l gs names o).run =
    (outside rest (n + 1) (l.push (.bracketed o.pos o.negated o.body)) gs
      names).run :=
  run_of_more rfl

/-- A list of ranges in brackets becomes one item of the pattern. -/
theorem run_class (negated : Bool) {rs : List CharRange} (ne : rs ≠ []) :
    (outside
      ('[' :: (caret negated ++ (rs.flatMap CharRange.chars ++ ']' :: rest))) n
        l gs names).run =
      (outside rest (n + 1 + length (caret negated)
          + length (rs.flatMap CharRange.chars) + 1)
        (l.push
          (.bracketed n negated (.ofItems (n + 1 + length (caret negated))
          (CharRange.items (n + 1 + length (caret negated)) rs)))) gs
            names).run := by
  obtain ⟨r, rs, rfl⟩ := List.exists_cons_of_ne_nil ne
  obtain ⟨x, tail, hr, hx⟩ := r.chars_cons
  have first : (r :: rs).flatMap CharRange.chars ++ ']' :: rest =
      x :: (tail ++ (rs.flatMap CharRange.chars ++ ']' :: rest)) := by
    simp [hr]
  rw [first, run_openClass hx, ← first, run_ranges, run_closeClass]
  simp [OpenClass.body]

end State

end PatternCheck.Pattern
