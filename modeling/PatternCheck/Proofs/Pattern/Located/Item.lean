import PatternCheck.Proofs.Pattern.Place

/-
Reading single items stays on the pattern: atoms, the items and openings
of bracketed classes, the openings of groups, and repetition operators.
There is one lemma for each reader, in the order in which the readers
call each other; each says what places come out, that the cursor is left
on the pattern, and that faults are apt.
-/

namespace PatternCheck.Pattern

variable {p : List Char} {v : Bool} {c : Cursor}

-- ============================================================== atoms

/-- A fixed number of digits is refused where the text ends, and where there
is something else. -/
theorem readHexDigits_located {n : Nat} {acc : List Char} (hc : c.On p) :
    Read p (fun _ => True) (readHexDigits v n acc c) := by
  induction n generalizing acc c with
  | zero => exact ⟨trivial, hc⟩
  | succ n ih =>
      unfold readHexDigits
      split
      · exact .refuse_at hc.isPlace rfl
      · split
        · exact ih hc.step
        · exact .refuse_at hc.isPlace rfl

/-- A number that is no character is refused at its first digit. -/
theorem hexLiteral_located {start digits : Nat} {byte : Bool} {hex : List Char}
    (hs : IsPlace p start) (hd : IsPlace p digits) (hc : c.On p) :
    Read p (fun a => IsPlace p a.pos)
      (hexLiteral start digits byte hex c) := by
  unfold hexLiteral
  split
  · exact ⟨hs, hc⟩
  · exact .refuse_at hd rfl

/-- A character by its number stands where its backslash does. -/
theorem readHex_located {start : Nat} {letter : Char} (hs : IsPlace p start)
    (hc : c.On p) :
    Read p (fun a => IsPlace p a.pos) (readHex v start letter c) := by
  unfold readHex
  have hc := hc.step (v := v)
  generalize c.step v = c at hc ⊢
  dsimp only
  split
  · exact .refuse_at hc.isPlace rfl
  · next r hr =>
      -- the first digit stands right after the brace, which is one byte
      have inside : IsPlace p (c.pos + 1) := by
        have ho : Cursor.On p ⟨'\x7b' :: r, c.pos⟩ := hr ▸ hc
        exact ho.cons.isPlace
      obtain ⟨-, after⟩ :=
        hc.step (v := v) |>.collect (v := v) (q := isHexDigit)
      split
      · exact .refuse_at hc.isPlace rfl
      · split
        · exact .refuse_at hc.isPlace rfl
        · exact hexLiteral_located hs inside after.step
      · exact .refuse_at after.isPlace rfl
  · have hd :
        Read p (fun _ => True) (readHexDigits v (hexWidth letter) [] c) :=
      readHexDigits_located hc
    split
    · next h => exact hexLiteral_located hs hc.isPlace (hd.of_ok h).2
    · next h => exact hd.of_error h

/-- So does a class by its property, with its name in braces or without. -/
theorem readProperty_located {start : Nat} {negated : Bool}
    (hs : IsPlace p start) (hc : c.On p) :
    Read p (fun a => IsPlace p a.pos) (readProperty v start negated c) := by
  unfold readProperty
  have hc := hc.step (v := v)
  generalize c.step v = c at hc ⊢
  dsimp only
  split
  · exact .refuse_at hc.isPlace rfl
  · obtain ⟨-, after⟩ :=
      hc.step (v := v) |>.collect (v := v) (q := (· != '\x7d'))
    split
    · exact .refuse_at after.isPlace rfl
    · exact ⟨hs, after.advance⟩
  · exact .refuse_at hc.isPlace rfl
  · exact ⟨hs, hc.step⟩

/-- So does a boundary of words. A kind of boundary that is not known is
refused at its name, and one that is not closed at the brace. -/
theorem readBoundary_located {start : Nat} (hs : IsPlace p start)
    (hc : c.On p) :
    Read p (fun a => IsPlace p a.pos) (readBoundary v start c) := by
  unfold readBoundary
  dsimp only
  split
  · split
    · exact .refuse_at hs rfl
    · split
      · exact ⟨hs, hc⟩
      · obtain ⟨-, closing⟩ :=
          hc.step (v := v) |>.collect (v := v) (q := isBoundaryChar)
        split
        · split
          · exact ⟨hs, closing.advance⟩
          · exact .refuse_at hc.step.isPlace rfl
        · exact .refuse_at hc.isPlace rfl
  · exact ⟨hs, hc⟩

/-- Whatever is escaped stands at its backslash, and what has no meaning after
one is refused there: the backslash is the mark. -/
theorem readEscape_located {start : Nat} (hs : HasMark p start '\\')
    (hc : c.On p) :
    Read p (fun a => IsPlace p a.pos) (readEscape v start c) := by
  have place := hs.isPlace
  unfold readEscape
  split
  · exact .refuse_at place rfl
  · split
    · exact .refuse_mark hs (by decide)
    split
    · exact readHex_located place hc
    split
    · exact readProperty_located place hc
    split
    · exact readBoundary_located place hc.advance
    split
    · exact ⟨place, hc.advance⟩
    split
    · exact ⟨place, hc.advance⟩
    · exact ⟨place, hc.advance⟩
    · exact ⟨place, hc.advance⟩
    · exact .refuse_mark hs (by decide)

/-- An atom stands where its reading begins. -/
theorem Atom.read_located (hc : c.On p) :
    Read p (fun a => IsPlace p a.pos) (Atom.read v c) := by
  unfold Atom.read
  split
  · next hr => exact readEscape_located (hc.hasMark hr) hc.advance
  · exact ⟨hc.isPlace, hc.advance⟩
  · exact .refuse_at hc.isPlace rfl

-- ===================================================== bracketed classes

namespace ClassSet

mutual

/-- Every node of the class tree stands at a place of the pattern. -/
def Within (p : List Char) : ClassSet → Prop
  | .empty n => IsPlace p n
  | .literal l => IsPlace p l.pos
  | .range lo hi => IsPlace p lo.pos ∧ IsPlace p hi.pos
  | .ascii n _ _ => IsPlace p n
  | .shorthand n _ _ => IsPlace p n
  | .bracketed n _ body => IsPlace p n ∧ body.Within p
  | .union n items => IsPlace p n ∧ AllWithin p items
  | .binary n _ lhs rhs => IsPlace p n ∧ lhs.Within p ∧ rhs.Within p

/-- The same for several class trees. -/
def AllWithin (p : List Char) : List ClassSet → Prop
  | [] => True
  | x :: rest => x.Within p ∧ AllWithin p rest

end

/-- Several class trees stand on the pattern if each of them does. -/
theorem allWithin_iff {items : List ClassSet} :
    AllWithin p items ↔ ∀ x ∈ items, x.Within p := by
  induction items with
  | nil => simp [AllWithin]
  | cons x rest ih => simp [AllWithin, ih]

/-- The place of a class tree is that of its topmost node. -/
theorem Within.isPlace {s : ClassSet} (h : s.Within p) : IsPlace p s.pos := by
  cases s with
  | empty n => exact h
  | literal l => exact h
  | range lo hi => exact h.1
  | ascii n negated kind => exact h
  | shorthand n negated kind => exact h
  | bracketed n negated body => exact h.1
  | union n items => exact h.1
  | binary n op lhs rhs => exact h.1

/-- A union of items stands at the place of the union, a single item at its
own. -/
theorem ofItems_within {n : Nat} {items : List ClassSet} (hn : IsPlace p n)
    (hi : ∀ x ∈ items, x.Within p) : (ofItems n items).Within p := by
  match items with
  | [] => exact hn
  | [x] => exact hi x (by simp)
  | x :: y :: rest => exact ⟨(hi x (by simp)).isPlace, allWithin_iff.2 hi⟩

end ClassSet

/-- A class that is still open: it was opened by a bracket, and all that
was read of it has a place. -/
structure OpenClass.Within (p : List Char) (o : OpenClass) : Prop where
  opened : HasMark p o.pos '['
  pending : ∀ lhs op, o.pending = some (lhs, op) → lhs.Within p
  itemsPos : IsPlace p o.itemsPos
  items : ∀ x ∈ o.items, x.Within p

namespace OpenClass.Within

variable {o : OpenClass}

/-- A class may be given one item more. -/
theorem push {item : ClassSet} (h : o.Within p) (hi : item.Within p) :
    (o.push item).Within p where
  opened := h.opened
  pending := h.pending
  itemsPos := h.itemsPos
  items := by
    intro x hx
    rcases List.mem_cons.1 hx with rfl | hx
    · exact hi
    · exact h.items x hx

/-- What an open class is so far, its operators applied, stands on the
pattern. -/
theorem body (h : o.Within p) : o.body.Within p := by
  have last : (ClassSet.ofItems o.itemsPos o.items.reverse).Within p :=
    ClassSet.ofItems_within h.itemsPos (by simpa using h.items)
  unfold OpenClass.body
  dsimp only
  split
  · exact last
  · next lhs op hp =>
      have left := h.pending lhs op hp
      exact ⟨left.isPlace, left, last⟩

/-- After an operator the right side begins with no items. -/
theorem operator {op : SetOp} {n : Nat} (h : o.Within p) (hn : IsPlace p n) :
    (o.operator op n).Within p where
  opened := h.opened
  pending := by
    intro lhs op' hp
    cases hp
    exact h.body
  itemsPos := hn
  items := by simp [OpenClass.operator]

/-- A class that is closed stands at its bracket. -/
theorem close (h : o.Within p) : o.close.Within p := ⟨h.opened.isPlace, h.body⟩

end OpenClass.Within

/-- Dashes and a bracket that come first in a class are items of it. If
nothing comes after them, the bracket that opened the class is to blame. -/
theorem OpenClass.readLeading_located {n : Nat} {negated : Bool}
    (ho : HasMark p n '[') (hc : c.On p) :
    Read p (OpenClass.Within p) (OpenClass.readLeading v n negated c) := by
  obtain ⟨dashes, after⟩ := hc.collect (v := v) (q := (· == '-'))
  unfold OpenClass.readLeading
  generalize c.collect v (· == '-') = run at dashes after ⊢
  have opened : OpenClass.Within p
      { pos := n, negated, pending := none, itemsPos := c.pos
        items := run.1.reverse.map .literal } := by
    refine ⟨ho, by simp, hc.isPlace, fun x hx => ?_⟩
    obtain ⟨l, hl, rfl⟩ := List.mem_map.1 hx
    exact dashes l (List.mem_reverse.1 hl)
  dsimp only
  split
  · exact .refuse_mark ho (by decide)
  · split
    · split
      · exact .refuse_mark ho (by decide)
      · exact ⟨opened.push after.isPlace, after.step⟩
    · exact ⟨opened, after⟩
  · exact ⟨opened, after⟩

/-- A class stands at the bracket that opens it, whether it is negated or
not. -/
theorem OpenClass.read_located {rest : List Char} (hr : c.rest = '[' :: rest)
    (hc : c.On p) : Read p (OpenClass.Within p) (OpenClass.read v c) := by
  have opened := hc.hasMark hr
  unfold OpenClass.read
  dsimp only
  split
  · exact readLeading_located opened hc.step.step
  · exact readLeading_located opened hc.step

/-- A class by its name, within brackets and colons, stands at its bracket,
and what is left of the text begins after its last one. -/
theorem readAscii?_within {r : ClassSet × Cursor} (hc : c.On p)
    (h : readAscii? c = some r) : r.1.Within p ∧ r.2.On p := by
  unfold readAscii? at h
  split at h
  · next r' hr =>
      have inside : Cursor.On p ⟨r', c.pos + 2⟩ :=
        Cursor.On.append ['[', ':']
          (show Cursor.On p ⟨'[' :: ':' :: r', c.pos⟩ from hr ▸ hc)
      split at h
      next negated name n hn =>
        have named : Cursor.On p ⟨name, n⟩ := by
          split at hn
          · cases hn
            exact inside.cons
          · cases hn
            exact inside
        dsimp only at h
        split at h
        · next after hs =>
            -- the name and what follows it make up the text after the colon
            have split :
                name = name.takeWhile (· != ':') ++ ':' :: ']' :: after := by
              rw [← hs, List.takeWhile_append_dropWhile]
            rw [split] at named
            have closing := (named.append _).cons.cons
            cases hk : AsciiClass.ofName?
              (String.ofList (name.takeWhile (· != ':'))) with
            | none => simp [hk] at h
            | some kind =>
                simp only [hk, Option.map_some, Option.some.injEq] at h
                subst h
                exact ⟨hc.isPlace, closing⟩
        · cases h
  · cases h

/-- A boundary is no item of a class, and is refused where it stands. -/
theorem Atom.toItem_located {a : Atom} (ha : IsPlace p a.pos) :
    Located p (ClassSet.Within p) a.toItem := by
  cases a with
  | literal l => exact ha
  | shorthand n negated kind => exact ha
  | assertion n kind => exact .refuse_at ha rfl

/-- Neither a class nor a boundary is an end of a range. -/
theorem Atom.toBound_located {a : Atom} (ha : IsPlace p a.pos) :
    Located p (fun l => IsPlace p l.pos) a.toBound := by
  cases a with
  | literal l => exact ha
  | shorthand n negated kind => exact .refuse_at ha rfl
  | assertion n kind => exact .refuse_at ha rfl

/-- A range whose ends are in the wrong order is refused at its first end. -/
theorem rangeItem_located {a b : Atom} (ha : IsPlace p a.pos)
    (hb : IsPlace p b.pos) :
    Located p (ClassSet.Within p) (rangeItem a b) := by
  unfold rangeItem
  refine (Atom.toBound_located ha).bind fun lo hlo => ?_
  refine (Atom.toBound_located hb).bind fun hi hhi => ?_
  split
  · exact .refuse_at hlo rfl
  · exact ⟨hlo, hhi⟩

/-- An item of a class stands on the pattern. If the text ends before the
class does, the bracket that opened it is to blame. -/
theorem readItem_located {opened : Nat} (ho : HasMark p opened '[')
    (hc : c.On p) : Read p (ClassSet.Within p) (readItem v opened c) := by
  have first := Atom.read_located (v := v) hc
  unfold readItem
  split
  · next h => exact first.of_error h
  · next a next h =>
      obtain ⟨ha, hn⟩ := first.of_ok h
      have hn := hn.space (v := v)
      generalize next.space v = next at hn ⊢
      have single :
          Read p (ClassSet.Within p) (a.toItem.map fun item => (item, next)) :=
        (Atom.toItem_located ha).map fun item hi => ⟨hi, hn⟩
      dsimp only
      split
      · exact .refuse_mark ho (by decide)
      · split
        · exact single
        · split
          · exact .refuse_mark ho (by decide)
          · have second := Atom.read_located (v := v) (hn.step (v := v))
            split
            · next h => exact second.of_error h
            · next b after h =>
                obtain ⟨hb, hafter⟩ := second.of_ok h
                exact (rangeItem_located ha hb).map fun item hi => ⟨hi, hafter⟩
      · exact single

-- ============================================================== groups

/-- A name is refused at the first character that cannot be in it, or at the
end of the text. -/
theorem readName_located {first : Bool} {acc cs : List Char} {n : Nat}
    (hc : Cursor.On p ⟨cs, n⟩) :
    Read p (fun _ => True) (readName first acc cs n) := by
  induction cs generalizing first acc n with
  | nil => exact .refuse_at hc.isPlace rfl
  | cons c cs ih =>
      unfold readName
      split
      · exact ⟨trivial, hc⟩
      · split
        · exact ih hc.cons
        · exact .refuse_at hc.isPlace rfl

/-- Flags are refused where one is unknown or given twice; a dash that is
given twice, and one with no flag after it, at the dash. -/
theorem readFlags_located {clearing : Bool} {negation : Option Nat}
    {acc : FlagChanges} {cs : List Char} {n : Nat}
    (hneg : ∀ k, negation = some k → IsPlace p k) (hc : Cursor.On p ⟨cs, n⟩) :
    Read p (fun _ => True) (readFlags clearing negation acc cs n) := by
  induction cs generalizing clearing negation acc n with
  | nil => exact .refuse_at hc.isPlace rfl
  | cons c cs ih =>
      unfold readFlags
      split
      · split
        · exact .refuse_at (hneg _ rfl) rfl
        · exact ⟨trivial, hc⟩
      · split
        · next hd =>
            subst hd
            split
            · exact .refuse_at hc.isPlace rfl
            · refine ih (fun k hk => ?_) hc.cons
              cases hk
              exact hc.isPlace
        · split
          · exact .refuse_at hc.isPlace rfl
          · split
            · exact .refuse_at hc.isPlace rfl
            · exact ih (by simp) hc.cons

/-- A name begins after the marks in front of it. -/
theorem nameStart?_on {d : Cursor} (hc : c.On p) (h : nameStart? c = some d) :
    d.On p := by
  unfold nameStart? at h
  split at h
  · next r hr =>
      cases h
      exact Cursor.On.append ['?', 'P', '<']
        (show Cursor.On p ⟨'?' :: 'P' :: '<' :: r, c.pos⟩ from hr ▸ hc)
  · next r hr =>
      cases h
      exact Cursor.On.append ['?', '<']
        (show Cursor.On p ⟨'?' :: '<' :: r, c.pos⟩ from hr ▸ hc)
  · cases h

/-- A name that is empty or taken is refused where it begins. -/
theorem readNamed_located {names : List String} (hc : c.On p) :
    Read p (fun _ => True) (readNamed names c) := by
  have name : Read p (fun _ => True) (readName true [] c.rest c.pos) :=
    readName_located hc
  unfold readNamed
  split
  · next h => exact name.of_error h
  · next cs closing h =>
      have closing := (name.of_ok h).2
      dsimp only
      split
      · exact .refuse_at hc.isPlace rfl
      · split
        · exact .refuse_at hc.isPlace rfl
        · exact ⟨trivial, closing.advance⟩

/-- What opens a group is read on the pattern. Looking around, and a group of
which there is nothing but its mark, are refused at the parenthesis. -/
theorem Opening.read_located {names : List String} {rest : List Char}
    (hr : c.rest = '(' :: rest) (hc : c.On p) :
    Read p (fun _ => True) (Opening.read v names c) := by
  have opened := hc.hasMark hr
  unfold Opening.read
  have hd := hc.step (v := v)
  generalize c.step v = d at hd ⊢
  dsimp only
  split
  · exact .refuse_mark opened (by decide)
  split
  · next h => exact readNamed_located (nameStart?_on hd h)
  split
  · exact .refuse_mark opened (by decide)
  · next r _ hq =>
      have inside : Cursor.On p ⟨r, d.pos + 1⟩ :=
        (show Cursor.On p ⟨'?' :: r, d.pos⟩ from hq ▸ hd).cons
      have flags :
          Read p (fun _ => True) (readFlags false none [] r (d.pos + 1)) :=
        readFlags_located (by simp) inside
      split
      · next h => exact flags.of_error h
      · next changes closing h =>
          have closing := (flags.of_ok h).2
          split
          · exact ⟨trivial, closing.advance⟩
          · split
            · exact .refuse_mark (hd.hasMark hq) (by decide)
            · exact ⟨trivial, closing.advance⟩
  · exact ⟨trivial, hd⟩

-- ========================================================== repetition

/-- A number with blanks around it is refused at its first digit, or where
that should be. -/
theorem readDecimal_located (hc : c.On p) :
    Located p (fun _ => True) (readDecimal v c).1
      ∧ (readDecimal v c).2.On p := by
  have first : (Cursor.blanks c.rest c.pos).On p := Cursor.On.blanks hc
  obtain ⟨-, after⟩ := first.collect (v := v) (q := isDigit)
  unfold readDecimal
  dsimp only
  refine ⟨?_, after.blanks⟩
  split
  · exact .refuse_at first.isPlace rfl
  · split
    · exact .refuse_at first.isPlace rfl
    · trivial

theorem readLazy_on (hc : c.On p) : (readLazy c).2.On p := by
  unfold readLazy
  split
  · exact hc.advance
  · exact hc

/-- An upper bound is refused at the brace, unless it is a number that is
refused by itself. -/
theorem readUpper_located {start : Nat} {min : Except Fault Nat}
    (hs : IsPlace p start) (hm : Located p (fun _ => True) min) (hc : c.On p) :
    Read p (fun _ => True) (readUpper v start min c) := by
  unfold readUpper
  split
  · exact .refuse_at hs rfl
  · have hc := hc.step (v := v)
    generalize c.step v = c at hc ⊢
    dsimp only
    split
    · exact .refuse_at hs rfl
    · exact hm.map fun m _ => ⟨trivial, hc⟩
    · obtain ⟨upper, after⟩ := readDecimal_located (v := v) hc
      split
      · exact hm
      · next h => exact upper.of_error (by rw [h])
      · next h => exact ⟨trivial, by rw [h] at after; exact after⟩
  · exact hm.map fun m _ => ⟨trivial, hc⟩

/-- So is a count: whatever is wrong with it is wrong at its brace, but for
its numbers. -/
theorem readCount_located (hc : c.On p) :
    Read p (fun _ => True) (readCount v c) := by
  have start := hc.isPlace
  unfold readCount
  have hd := hc.step (v := v)
  generalize c.step v = d at hd ⊢
  dsimp only
  split
  · exact .refuse_at start rfl
  · obtain ⟨lower, after⟩ := readDecimal_located (v := v) hd
    have upper := readUpper_located (v := v) start lower after
    split
    · next h => exact upper.of_error h
    · next count closing h =>
        have closing := (upper.of_ok h).2
        split
        · split
          · exact ⟨trivial, readLazy_on closing.step⟩
          · exact .refuse_at start rfl
        · exact .refuse_at start rfl

theorem simpleRepeat_located {count : Count} (hc : c.On p) :
    Read p (fun _ => True) (State.simpleRepeat count c) :=
  ⟨trivial, readLazy_on hc.advance⟩

end PatternCheck.Pattern
