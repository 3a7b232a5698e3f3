import PatternCheck.Pattern.Reader

/-
The same text further on. Where reading begins has no say in what is read:
places are only ever copied from cursors, and cursors only ever add to
them. So the same characters, read `k` bytes further on, make the same
things, each of them `k` bytes further on, and a fault is the same fault
there. `moved k` is what each of the things becomes.

There is one lemma for each reader, in the order in which the readers call
each other; here are those of single items.
-/

namespace PatternCheck.Pattern

variable {k : Nat} {v : Bool}

-- ============================================================ outcomes

def Fault.moved (k : Nat) (f : Fault) : Fault := { f with pos := f.pos + k }

def Cursor.moved (k : Nat) (c : Cursor) : Cursor := { c with pos := c.pos + k }

/-- An outcome further on; `f` is what becomes of that which comes out well. -/
def Outcome.moved {α : Type} (k : Nat) (f : α → α) :
    Except Fault α → Except Fault α
  | .ok a => .ok (f a)
  | .error e => .error (e.moved k)

/-- A reading further on. -/
def Reading.moved {α : Type} (k : Nat) (f : α → α) (r : Reading α) :
    Reading α :=
  Outcome.moved k (Prod.map f (Cursor.moved k)) r

section Outcome

variable {α β : Type} {f : α → α} {g : β → β}

@[simp] theorem Outcome.moved_ok (a : α) :
    Outcome.moved k f (.ok a) = .ok (f a) := rfl

/-- One step after the other: a step that may be moved, moved with what it
steps from, moves the whole. -/
theorem Outcome.moved_bind {x : Except Fault α} {h h' : α → Except Fault β}
    (step : ∀ a, h' (f a) = Outcome.moved k g (h a)) :
    (Outcome.moved k f x >>= h') = Outcome.moved k g (x >>= h) := by
  cases x with
  | error e => rfl
  | ok a => exact step a

/-- The same for a step that cannot fail. -/
theorem Outcome.moved_map {x : Except Fault α} {h h' : α → β}
    (step : ∀ a, h' (f a) = g (h a)) :
    (Outcome.moved k f x).map h' = Outcome.moved k g (x.map h) := by
  cases x with
  | error e => rfl
  | ok a => exact congrArg Except.ok (step a)

@[simp] theorem Reading.moved_ok (f : α → α) (a : α) (c : Cursor) :
    Reading.moved k f (.ok (a, c)) = .ok (f a, c.moved k) := rfl

end Outcome

-- =============================================================== moves

def Literal.moved (k : Nat) (l : Literal) : Literal :=
  { l with pos := l.pos + k }

namespace Cursor

@[simp] theorem moved_rest (c : Cursor) : (c.moved k).rest = c.rest := rfl

@[simp] theorem moved_pos (c : Cursor) : (c.moved k).pos = c.pos + k := rfl

/-- A character takes as many bytes wherever it stands. -/
@[simp] theorem advance_moved (c : Cursor) :
    (c.moved k).advance = c.advance.moved k := by
  unfold advance
  simp only [moved_rest]
  split
  · rfl
  · rw [moved_pos, Nat.add_right_comm]
    rfl

/-- Blanks and comments end at the same character. -/
theorem skip_moved (b : Bool) (r : List Char) (n : Nat) :
    skip b r (n + k) = (skip b r n).moved k := by
  fun_induction skip b r n with
  | case1 b n => rfl
  | case2 c r n ih => rw [skip, Nat.add_right_comm, ih]
  | case3 c r n blank ih => rw [skip, if_pos blank, Nat.add_right_comm, ih]
  | case4 r n blank ih =>
      rw [skip, if_neg blank, if_pos rfl, Nat.add_right_comm, ih]
  | case5 c r n blank comment => rw [skip, if_neg blank, if_neg comment]; rfl

/-- So does whatever a mode ignores. -/
@[simp] theorem space_moved (c : Cursor) :
    (c.moved k).space v = (c.space v).moved k := by
  unfold space
  split
  · exact skip_moved false c.rest c.pos
  · rfl

@[simp] theorem step_moved (c : Cursor) :
    (c.moved k).step v = (c.step v).moved k := by
  rw [step, advance_moved, space_moved]
  rfl

theorem blanks_moved (r : List Char) (n : Nat) :
    blanks r (n + k) = (blanks r n).moved k := by
  fun_induction blanks r n with
  | case1 n => rfl
  | case2 n c r blank ih => rw [blanks, if_pos blank, Nat.add_right_comm, ih]
  | case3 n c r blank => rw [blanks, if_neg blank]; rfl

/-- A run ends at the same character, and each character of it has moved. -/
theorem run_moved (p : Char → Bool) (b : Bool) (acc : List Literal)
    (r : List Char) (n : Nat) :
    run v p b (acc.map (Literal.moved k)) r (n + k) =
      Prod.map (List.map (Literal.moved k)) (moved k) (run v p b acc r n) := by
  fun_induction run v p b acc r n with
  | case1 b acc n => rw [run, ← List.map_reverse]; rfl
  | case2 acc c r n ih => rw [run, Nat.add_right_comm, ih]
  | case3 acc c r n blank ih => rw [run, if_pos blank, Nat.add_right_comm, ih]
  | case4 acc c r n blank comment ih =>
      rw [run, if_neg blank, if_pos comment, Nat.add_right_comm, ih]
  | case5 acc c r n blank comment taken ih =>
      rw [run, if_neg blank, if_neg comment, if_pos taken,
        Nat.add_right_comm, ← ih]
      rfl
  | case6 acc c r n blank comment taken =>
      rw [run, if_neg blank, if_neg comment, if_neg taken, ← List.map_reverse]
      rfl

/-- A run is collected from its beginning, with nothing before it to move. -/
@[simp] theorem collect_moved (p : Char → Bool) (c : Cursor) :
    (c.moved k).collect v p =
    Prod.map (List.map (Literal.moved k)) (moved k) (c.collect v p) :=
  run_moved p false [] c.rest c.pos

end Cursor

/-- What the characters of a run are does not depend on where they stand. -/
@[simp] theorem chars_moved (ls : List Literal) :
    (ls.map (Literal.moved k)).map (·.char) = ls.map (·.char) := List.map_map

-- ============================================================== atoms

namespace Atom

def moved (k : Nat) : Atom → Atom
  | literal l => literal (l.moved k)
  | shorthand p negated kind => shorthand (p + k) negated kind
  | assertion p kind => assertion (p + k) kind

/-- The place of an atom moves with it. -/
theorem pos_moved (a : Atom) : (a.moved k).pos = a.pos + k := by
  cases a <;> rfl

end Atom

/-- Digits by themselves have no place; only the cursor after them moves. -/
theorem readHexDigits_moved (n : Nat) : ∀ (acc : List Char) (c : Cursor),
    readHexDigits v n acc (c.moved k)
      = (readHexDigits v n acc c).moved k id := by
  induction n with
  | zero => exact fun _ _ => rfl
  | succ n ih =>
      intro acc c
      unfold readHexDigits
      simp only [Cursor.moved_rest, Cursor.moved_pos, Cursor.step_moved]
      split
      · rfl
      · split
        · exact ih _ _
        · rfl

/-- A character by its number moves with its backslash, and the fault of a
number that is none with its first digit. -/
theorem hexLiteral_moved (start digits : Nat) (byte : Bool) (hex : List Char)
    (c : Cursor) :
    hexLiteral (start + k) (digits + k) byte hex (c.moved k) =
      (hexLiteral start digits byte hex c).moved k (Atom.moved k) := by
  unfold hexLiteral
  split <;> rfl

/-- With braces around its number or without, a character moves with its
backslash. -/
theorem readHex_moved (start : Nat) (letter : Char) (c : Cursor) :
    readHex v (start + k) letter (c.moved k) =
      (readHex v start letter c).moved k (Atom.moved k) := by
  unfold readHex
  simp only [Cursor.step_moved, Cursor.collect_moved, Cursor.moved_rest,
    Cursor.moved_pos, Prod.map_fst, Prod.map_snd, chars_moved,
    List.isEmpty_map]
  generalize c.step v = c
  split
  · rfl
  · generalize (c.step v).collect v isHexDigit = run
    split
    · rfl
    · split
      · rfl
      · rw [Nat.add_right_comm]
        exact hexLiteral_moved _ _ _ _ _
    · rfl
  · rw [readHexDigits_moved]
    cases readHexDigits v (hexWidth letter) [] c with
    | error e => rfl
    | ok r => exact hexLiteral_moved _ _ _ _ _

/-- What a class asks for is what stands in the braces, and not where. -/
theorem readProperty_moved (start : Nat) (negated : Bool) (c : Cursor) :
    readProperty v (start + k) negated (c.moved k) =
      (readProperty v start negated c).moved k (Atom.moved k) := by
  unfold readProperty
  simp only [Cursor.step_moved, Cursor.collect_moved, Cursor.moved_rest,
    Cursor.moved_pos, Prod.map_fst, Prod.map_snd, chars_moved,
    Cursor.advance_moved]
  generalize c.step v = c
  split
  · rfl
  · split <;> rfl
  · rfl
  · rfl

/-- A brace after a boundary is a name or a count wherever it stands. -/
theorem readBoundary_moved (start : Nat) (c : Cursor) :
    readBoundary v (start + k) (c.moved k) =
      (readBoundary v start c).moved k (Atom.moved k) := by
  unfold readBoundary
  simp only [Cursor.step_moved, Cursor.collect_moved, Cursor.moved_rest,
    Cursor.moved_pos, Prod.map_fst, Prod.map_snd, chars_moved,
    Cursor.advance_moved]
  split
  · split
    · rfl
    · split
      · rfl
      · split
        · split <;> rfl
        · rfl
  · rfl

/-- The character after a backslash alone decides what is read. -/
theorem readEscape_moved (start : Nat) (c : Cursor) :
    readEscape v (start + k) (c.moved k)
      = (readEscape v start c).moved k (Atom.moved k) := by
  unfold readEscape
  simp only [Cursor.moved_rest, Cursor.advance_moved]
  split
  · rfl
  · split
    · rfl
    split
    · exact readHex_moved _ _ _
    split
    · exact readProperty_moved _ _ _
    split
    · exact readBoundary_moved _ _
    split
    · rfl
    split <;> rfl

/-- An atom further on is the same atom further on. -/
theorem Atom.read_moved (c : Cursor) :
    Atom.read v (c.moved k) = (Atom.read v c).moved k (Atom.moved k) := by
  unfold Atom.read
  simp only [Cursor.moved_rest, Cursor.moved_pos, Cursor.advance_moved]
  split
  · exact readEscape_moved _ _
  · rfl
  · rfl

-- ===================================================== bracketed classes

namespace ClassSet

mutual

def moved (k : Nat) : ClassSet → ClassSet
  | empty p => empty (p + k)
  | literal l => literal (l.moved k)
  | range lo hi => range (lo.moved k) (hi.moved k)
  | ascii p negated kind => ascii (p + k) negated kind
  | shorthand p negated kind => shorthand (p + k) negated kind
  | bracketed p negated body => bracketed (p + k) negated (body.moved k)
  | union p items => union (p + k) (allMoved k items)
  | binary p op lhs rhs => binary (p + k) op (lhs.moved k) (rhs.moved k)

def allMoved (k : Nat) : List ClassSet → List ClassSet
  | [] => []
  | x :: rest => x.moved k :: allMoved k rest

end

theorem allMoved_eq_map (items : List ClassSet) :
    allMoved k items = items.map (moved k) := by
  induction items with
  | nil => rfl
  | cons x rest ih => rw [allMoved, ih]; rfl

/-- The place of a class tree is that of its topmost node, and moves. -/
theorem pos_moved (s : ClassSet) : (s.moved k).pos = s.pos + k := by
  cases s <;> simp only [moved, pos, Literal.moved]

/-- Items are put together in the same way, whether there are none, one or
more of them. -/
theorem ofItems_moved (n : Nat) (items : List ClassSet) :
    ofItems (n + k) (items.map (moved k)) = (ofItems n items).moved k := by
  match items with
  | [] => simp only [List.map_nil, ofItems, moved]
  | [x] => rfl
  | x :: y :: rest =>
      simp only [List.map_cons, ofItems, moved, allMoved, pos_moved,
        allMoved_eq_map]

end ClassSet

namespace OpenClass

def moved (k : Nat) (o : OpenClass) : OpenClass where
  pos := o.pos + k
  negated := o.negated
  pending := o.pending.map fun p => (p.1.moved k, p.2)
  itemsPos := o.itemsPos + k
  items := o.items.map (ClassSet.moved k)

theorem push_moved (o : OpenClass) (item : ClassSet) :
    (o.moved k).push (item.moved k) = (o.push item).moved k := rfl

/-- What an open class is so far has moved with all its items and with the
operator that waits. -/
theorem body_moved (o : OpenClass) : (o.moved k).body = o.body.moved k := by
  have last : ClassSet.ofItems (o.moved k).itemsPos (o.moved k).items.reverse =
      (ClassSet.ofItems o.itemsPos o.items.reverse).moved k := by
    rw [← ClassSet.ofItems_moved, List.map_reverse]
    rfl
  unfold body
  rw [last]
  cases hp : o.pending with
  | none => simp only [moved, hp, Option.map_none]
  | some p =>
      simp only [moved, hp, Option.map_some, ClassSet.moved,
        ClassSet.pos_moved]

/-- After an operator the right side begins further on. -/
theorem operator_moved (o : OpenClass) (op : SetOp) (n : Nat) :
    (o.moved k).operator op (n + k) = (o.operator op n).moved k := by
  unfold operator
  rw [body_moved]
  rfl

/-- A class that is closed further on is the class, moved. -/
theorem close_moved (o : OpenClass) : (o.moved k).close = o.close.moved k := by
  unfold close
  rw [body_moved]
  rfl

/-- The dashes that come first move one by one, and so does the bracket among
them. -/
theorem readLeading_moved (n : Nat) (negated : Bool) (c : Cursor) :
    readLeading v (n + k) negated (c.moved k) =
      (readLeading v n negated c).moved k (moved k) := by
  unfold readLeading
  simp only [Cursor.collect_moved, Cursor.step_moved, Cursor.moved_rest,
    Cursor.moved_pos, Prod.map_fst, Prod.map_snd, List.isEmpty_map]
  generalize c.collect v (· == '-') = run
  -- the dashes are items, and move with the class
  have dashes : (run.1.map (Literal.moved k)).reverse.map ClassSet.literal =
      (run.1.reverse.map ClassSet.literal).map (ClassSet.moved k) := by
    simp [Function.comp_def, ClassSet.moved]
  rw [dashes]
  split
  · rfl
  · split
    · split <;> rfl
    · rfl
  · rfl

/-- A class opens in the same way further on. -/
theorem read_moved (c : Cursor) :
    read v (c.moved k) = (read v c).moved k (moved k) := by
  unfold read
  simp only [Cursor.step_moved, Cursor.moved_rest, Cursor.moved_pos]
  split <;> exact readLeading_moved _ _ _

end OpenClass

/-- Whether brackets and colons enclose a name does not depend on where they
stand. -/
theorem readAscii?_moved (c : Cursor) : readAscii? (c.moved k) =
    (readAscii? c).map (Prod.map (ClassSet.moved k) (Cursor.moved k)) := by
  -- the end of the class is reached from its beginning by adding only
  have after (n : Nat) (name : List Char) :
      c.pos + k + n + Text.Utf8.length name + 2 =
        c.pos + n + Text.Utf8.length name + 2 + k := by
    omega
  unfold readAscii?
  simp only [Cursor.moved_rest, Cursor.moved_pos]
  split
  · next r _ =>
      cases r with
      | nil => rfl
      | cons x r =>
          by_cases caret : x = '^'
          · subst caret
            simp only [after]
            split
            · rw [Option.map_map]
              rfl
            · rfl
          · have plain : ∀ r', x :: r = '^' :: r' → False :=
              fun r' e => caret (List.cons.inj e).1
            simp only [after]
            split
            · rw [Option.map_map]
              rfl
            · rfl
  · rfl

/-- An atom is an item of a class or it is not; if not, the fault has
moved. -/
theorem Atom.toItem_moved (a : Atom) :
    (a.moved k).toItem = Outcome.moved k (ClassSet.moved k) a.toItem := by
  cases a <;> rfl

/-- The same for the end of a range. -/
theorem Atom.toBound_moved (a : Atom) :
    (a.moved k).toBound = Outcome.moved k (Literal.moved k) a.toBound := by
  cases a <;> rfl

/-- The order of two characters does not depend on their places. -/
theorem rangeItem_moved (a b : Atom) :
    rangeItem (a.moved k) (b.moved k)
      = Outcome.moved k (ClassSet.moved k) (rangeItem a b) := by
  unfold rangeItem
  rw [Atom.toBound_moved, Atom.toBound_moved]
  refine Outcome.moved_bind fun lo => Outcome.moved_bind fun hi => ?_
  show (if hi.char < lo.char then _ else _) = _
  split <;> rfl

/-- An item of a class moves, and the bracket that is to blame for its end
moves with it. -/
theorem readItem_moved (opened : Nat) (c : Cursor) :
    readItem v (opened + k) (c.moved k) =
    (readItem v opened c).moved k (ClassSet.moved k) := by
  unfold readItem
  rw [Atom.read_moved]
  cases Atom.read v c with
  | error e => rfl
  | ok r =>
      obtain ⟨a, next⟩ := r
      simp only [Reading.moved_ok, Cursor.space_moved, Cursor.step_moved,
        Cursor.moved_rest, Atom.toItem_moved, Atom.read_moved]
      generalize next.space v = next
      have single : (Outcome.moved k (ClassSet.moved k) a.toItem).map
          (fun item => (item, next.moved k)) =
          Reading.moved k (ClassSet.moved k)
          (a.toItem.map fun item => (item, next)) :=
        Outcome.moved_map fun _ => rfl
      split
      · rfl
      · split
        · exact single
        · split
          · rfl
          · cases Atom.read v (next.step v) with
            | error e => rfl
            | ok r =>
                obtain ⟨b, after⟩ := r
                simp only [Reading.moved_ok, rangeItem_moved]
                exact Outcome.moved_map fun _ => rfl
      · exact single

-- ============================================================== groups

/-- A name has the same characters further on. -/
theorem readName_moved (cs : List Char) :
    ∀ (first : Bool) (acc : List Char) (n : Nat),
    readName first acc cs (n + k) = (readName first acc cs n).moved k id := by
  induction cs with
  | nil => exact fun _ _ _ => rfl
  | cons c cs ih =>
      intro first acc n
      unfold readName
      rw [Nat.add_right_comm, ih]
      split
      · rfl
      · split <;> rfl

/-- Flags are the same further on; a dash that waits for one is remembered by
its place, which has moved. -/
theorem readFlags_moved (cs : List Char) :
    ∀ (clearing : Bool) (negation : Option Nat) (acc : FlagChanges) (n : Nat),
      readFlags clearing (negation.map (· + k)) acc cs (n + k) =
        (readFlags clearing negation acc cs n).moved k id := by
  induction cs with
  | nil => exact fun _ _ _ _ => rfl
  | cons c cs ih =>
      intro clearing negation acc n
      unfold readFlags
      have negated :
          readFlags true (some (n + k)) acc cs (n + k + c.utf8Size) =
            (readFlags true (some n) acc cs (n + c.utf8Size)).moved k id := by
        rw [Nat.add_right_comm]
        exact ih true (some n) acc _
      have set (acc : FlagChanges) :
          readFlags clearing none acc cs (n + k + c.utf8Size) =
            (readFlags clearing none acc cs (n + c.utf8Size)).moved k id := by
        rw [Nat.add_right_comm]
        exact ih clearing none acc _
      split
      · cases negation <;> rfl
      · split
        · split
          · rfl
          · exact negated
        · split
          · rfl
          · split
            · rfl
            · exact set _

theorem nameStart?_moved (c : Cursor) :
    nameStart? (c.moved k) = (nameStart? c).map (Cursor.moved k) := by
  unfold nameStart?
  simp only [Cursor.moved_rest, Cursor.moved_pos]
  split
  · rw [Nat.add_right_comm]
    rfl
  · rw [Nat.add_right_comm]
    rfl
  · rfl

/-- A name is taken or free wherever it stands. -/
theorem readNamed_moved (names : List String) (c : Cursor) :
    readNamed names (c.moved k) = (readNamed names c).moved k id := by
  unfold readNamed
  rw [Cursor.moved_rest, Cursor.moved_pos, readName_moved]
  cases readName true [] c.rest c.pos with
  | error e => rfl
  | ok r =>
      obtain ⟨name, closing⟩ := r
      simp only [Reading.moved_ok, Cursor.advance_moved, id]
      split
      · rfl
      · split <;> rfl

/-- What a parenthesis opens has no place of its own. -/
theorem Opening.read_moved (names : List String) (c : Cursor) :
    Opening.read v names (c.moved k)
      = (Opening.read v names c).moved k id := by
  unfold Opening.read
  simp only [Cursor.step_moved, Cursor.moved_rest, Cursor.moved_pos,
    nameStart?_moved]
  generalize c.step v = d
  split
  · rfl
  cases nameStart? d with
  | some inside => exact readNamed_moved names inside
  | none =>
      simp only [Option.map_none]
      split
      · rfl
      · next r _ _ =>
          have flags : readFlags false none [] r (d.pos + k + 1) =
              (readFlags false none [] r (d.pos + 1)).moved k id := by
            rw [Nat.add_right_comm]
            exact readFlags_moved r false none [] _
          rw [flags]
          cases readFlags false none [] r (d.pos + 1) with
          | error e => rfl
          | ok r =>
              obtain ⟨changes, closing⟩ := r
              simp only [Reading.moved_ok, Cursor.moved_rest,
                Cursor.advance_moved, id]
              split
              · rfl
              · split <;> rfl
      · rfl

-- ========================================================== repetition

/-- A number has the same value further on, and the same fault. -/
theorem readDecimal_moved (c : Cursor) : readDecimal v (c.moved k) =
    Prod.map (Outcome.moved k id) (Cursor.moved k) (readDecimal v c) := by
  unfold readDecimal
  simp only [Cursor.moved_rest, Cursor.moved_pos, Cursor.blanks_moved,
    Cursor.collect_moved, Prod.map_fst, Prod.map_snd, chars_moved,
    List.isEmpty_map]
  split
  · rfl
  · split <;> rfl

theorem readLazy_moved (c : Cursor) :
    readLazy (c.moved k) = Prod.map id (Cursor.moved k) (readLazy c) := by
  unfold readLazy
  simp only [Cursor.moved_rest, Cursor.advance_moved]
  split <;> rfl

/-- An upper bound is read after a lower one that has moved. -/
theorem readUpper_moved (start : Nat) (min : Except Fault Nat) (c : Cursor) :
    readUpper v (start + k) (Outcome.moved k id min) (c.moved k) =
      (readUpper v start min c).moved k id := by
  unfold readUpper
  simp only [Cursor.moved_rest, Cursor.step_moved, readDecimal_moved]
  split
  · rfl
  · split
    · rfl
    · exact Outcome.moved_map fun _ => rfl
    · cases min with
      | error e => rfl
      | ok m =>
          generalize readDecimal v (c.step v) = r
          obtain ⟨n, after⟩ := r
          cases n <;> rfl
  · exact Outcome.moved_map fun _ => rfl

/-- A count is the same count further on. -/
theorem readCount_moved (c : Cursor) :
    readCount v (c.moved k) = (readCount v c).moved k id := by
  unfold readCount
  simp only [Cursor.step_moved, Cursor.moved_rest, Cursor.moved_pos,
    readDecimal_moved, Prod.map_fst, Prod.map_snd, readUpper_moved]
  split
  · rfl
  · generalize readUpper v c.pos _ _ = r
    cases r with
    | error e => rfl
    | ok r =>
        obtain ⟨count, closing⟩ := r
        simp only [Reading.moved_ok, Cursor.moved_rest, Cursor.step_moved,
          readLazy_moved, id]
        split
        · split <;> rfl
        · rfl

end PatternCheck.Pattern
