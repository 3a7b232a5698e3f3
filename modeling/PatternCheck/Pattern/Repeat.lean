import PatternCheck.Pattern.Atom

/-
Reading repetition operators: the one-character ones and counts in
braces, each with the question mark that makes it lazy.
-/

namespace PatternCheck.Pattern

/-- Counts are below this number. -/
def countBound : Nat := UInt32.size

/-- The value of decimal digits. -/
def decimalValue (digits : List Char) : Nat :=
  digits.foldl (fun n c => n * 10 + (c.toNat - 0x30)) 0

/-- A decimal number with blanks around it, or why there is none, and the
place after it. -/
def readDecimal (verbose : Bool) (c : Cursor) : Except Fault Nat × Cursor :=
  let first := Cursor.blanks c.rest c.pos
  let (digits, after) := first.collect verbose isDigit
  let value := decimalValue (digits.map (·.char))
  let result :=
    if digits.isEmpty then refuse .countEmpty first.pos
    else if countBound ≤ value then refuse .countInvalid first.pos
    else .ok value
  (result, Cursor.blanks after.rest after.pos)

/-- Past a question mark, if there is one, and whether there was. -/
def readLazy (c : Cursor) : Bool × Cursor :=
  match c.rest with
  | '?' :: _ => (true, c.advance)
  | _ => (false, c)

/-- The upper bound of a count whose lower bound has been read, and the
place where the closing brace must stand. The cursor stands after the
lower bound, `start` on the opening brace. -/
def readUpper (verbose : Bool) (start : Nat) (min : Except Fault Nat)
    (c : Cursor) : Reading Count :=
  match c.rest with
  | [] => refuse .countUnclosed start
  | ',' :: _ =>
    let c := c.step verbose
    match c.rest with
    | [] => refuse .countUnclosed start
    | '}' :: _ => min.map fun m => (⟨m, none⟩, c)
    | _ =>
      match min, readDecimal verbose c with
      | .error e, _ => .error e
      | .ok _, (.error e, _) => .error e
      | .ok m, (.ok n, after) => .ok (⟨m, some n⟩, after)
  | _ => min.map fun m => (⟨m, some m⟩, c)

/-- Whether the bounds of a count are in order. -/
def Count.isOrdered (k : Count) : Bool :=
  match k.max with
  | some n => k.min ≤ n
  | none => true

/-- A count in braces, and whether it is lazy. The cursor stands on the
opening brace. -/
def readCount (verbose : Bool) (start : Cursor) : Reading (Count × Bool) :=
  let c := start.step verbose
  if c.rest.isEmpty then refuse .countUnclosed start.pos
  else
    let (min, c) := readDecimal verbose c
    match readUpper verbose start.pos min c with
    | .error e => .error e
    | .ok (count, closing) =>
      if closing.rest.head? = some '}' then
        let (lazy, after) := readLazy (closing.step verbose)
        if count.isOrdered then .ok ((count, lazy), after)
        else refuse .countReversed start.pos
      else refuse .countUnclosed start.pos

-- ======================================================== what is left

/-- A number takes its digits and the blanks around them. -/
theorem readDecimal_left_le (v : Bool) (c : Cursor) :
    (readDecimal v c).2.left ≤ c.left :=
  Nat.le_trans (Cursor.blanks_left_le ..)
    (Nat.le_trans (Cursor.collect_left_le v isDigit _)
      (Cursor.blanks_left_le ..))

theorem readLazy_left_le (c : Cursor) : (readLazy c).2.left ≤ c.left := by
  unfold readLazy
  split
  · exact Cursor.advance_left_le c
  · exact Nat.le_refl _

/-- An upper bound may be left out, with its comma or without. -/
theorem readUpper_left_le {v : Bool} {s : Nat} {m : Except Fault Nat}
    {c : Cursor} {r : Count × Cursor} (h : readUpper v s m c = .ok r) :
    r.2.left ≤ c.left := by
  have hstep := Cursor.step_left_le v c
  unfold readUpper at h
  split at h
  · cases h
  · dsimp only at h
    split at h
    · cases h
    · cases m <;> cases h
      exact hstep
    · split at h
      · cases h
      · cases h
      · next hd =>
        cases h
        have := readDecimal_left_le v (c.step v)
        rw [hd] at this
        exact Nat.le_trans this hstep
  · cases m <;> cases h
    exact Nat.le_refl _

/-- A count takes its brace. -/
theorem readCount_left_lt {v : Bool} {c : Cursor} {r : (Count × Bool) × Cursor}
    (ne : c.rest ≠ []) (h : readCount v c = .ok r) : r.2.left < c.left := by
  unfold readCount at h
  refine Nat.lt_of_le_of_lt ?_ (Cursor.step_left_lt v ne)
  generalize c.step v = d at h ⊢
  have hd := readDecimal_left_le v d
  dsimp only at h
  split at h
  · cases h
  · split at h
    · cases h
    · next count closing hu =>
      have hu := readUpper_left_le hu
      split at h
      · split at h <;> cases h
        exact Nat.le_trans (readLazy_left_le _)
          (Nat.le_trans (Cursor.step_left_le v _) (Nat.le_trans hu hd))
      · cases h

end PatternCheck.Pattern
