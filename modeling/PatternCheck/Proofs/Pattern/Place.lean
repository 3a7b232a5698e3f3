import PatternCheck.Pattern.Check
import PatternCheck.Proofs.Text.Utf8

/-
Places in a pattern. A place is a number of bytes after which a
character begins or the pattern ends; a cursor is `On` a pattern if what
it has left is what follows its place there. The moves of a cursor keep
it on the pattern, so a reader that only moves cursors and reports where
they stand never reports anything else.

Some causes say which character stands where they show (`Cause.marks`).
`Fault.Apt` is the whole of what is claimed about a fault: its place is
one of the pattern, and the character there is one that the cause names.
-/

namespace PatternCheck.Pattern

open Text.Utf8 (length length_nil length_cons length_append)

variable {p : List Char}

-- ============================================================== places

/-- What the cursor has left follows its place in the pattern. -/
def Cursor.On (p : List Char) (c : Cursor) : Prop :=
  ∃ before, p = before ++ c.rest ∧ c.pos = length before

/-- A character begins at the place, or the pattern ends there. -/
def IsPlace (p : List Char) (n : Nat) : Prop := ∃ rest, Cursor.On p ⟨rest, n⟩

/-- The character that begins at the place. -/
def HasMark (p : List Char) (n : Nat) (x : Char) : Prop :=
  ∃ rest, Cursor.On p ⟨x :: rest, n⟩

/-- Where a character stands is a place. -/
theorem HasMark.isPlace {n : Nat} {x : Char} : HasMark p n x → IsPlace p n
  | ⟨rest, h⟩ => ⟨x :: rest, h⟩

/-- So is where a cursor stands. -/
theorem Cursor.On.isPlace {c : Cursor} (h : c.On p) : IsPlace p c.pos :=
  ⟨c.rest, h⟩

/-- There stands the character that comes next. -/
theorem Cursor.On.hasMark {c : Cursor} {x : Char} {rest : List Char}
    (h : c.On p) (hr : c.rest = x :: rest) : HasMark p c.pos x :=
  ⟨rest, hr ▸ h⟩

/-- The bytes before a place, counted in characters. -/
theorem charsBefore?_length (before after : List Char) :
    Diagnostic.charsBefore? (before ++ after) (length before)
      = some before.length := by
  induction before with
  | nil => cases after <;> rfl
  | cons c before ih =>
      have hpos : 0 < c.utf8Size := c.utf8Size_pos
      rw [List.cons_append, Diagnostic.charsBefore?, length_cons,
        if_neg (by omega), if_pos (by omega), Nat.add_sub_cancel_left, ih]
      rfl

/-- At a place no byte offset is left as it is. -/
theorem IsPlace.charsBefore? {n : Nat} (h : IsPlace p n) :
    ∃ i, i ≤ p.length ∧ Diagnostic.charsBefore? p n = some i := by
  obtain ⟨rest, before, rfl, hn⟩ := h
  cases hn
  exact ⟨before.length, by simp, charsBefore?_length before rest⟩

/-- The characters before a place. -/
theorem charOffset_length (before after : List Char) :
    Diagnostic.charOffset (before ++ after) (length before)
      = before.length := by
  rw [Diagnostic.charOffset, charsBefore?_length, Option.getD_some]

/-- Nothing stands before the first character. -/
theorem charOffset_zero (p : List Char) : Diagnostic.charOffset p 0 = 0 :=
  charOffset_length [] p

/-- As many characters stand before a place as were taken to get there. -/
theorem charOffset_take {i : Nat} (h : i ≤ p.length) :
    Diagnostic.charOffset p (length (p.take i)) = i := by
  have := charOffset_length (p.take i) (p.drop i)
  rwa [List.take_append_drop, List.length_take_of_le h] at this

/-- What cannot be read is rejected where it cannot be read, in characters. -/
theorem Limits.check_of_unreadable {l : Limits} {cause : Cause}
    {before after : List Char}
    (h : Node.ofPattern (before ++ after) = .error ⟨cause, length before⟩) :
    l.check (String.ofList (before ++ after)) =
      .error (.syntaxError ⟨cause.message, some before.length⟩) := by
  have fault : analyse l.nesting (String.ofList (before ++ after)).toList =
      .error ⟨cause, length before⟩ := by
    rw [String.toList_ofList]
    exact analyse_of_unreadable h
  rw [check_of_fault fault, Diagnostic.ofFault, String.toList_ofList,
    charOffset_length]

-- =============================================================== moves

namespace Cursor

theorem On.start (p : List Char) : (Cursor.start p).On p := ⟨[], rfl, rfl⟩

/-- Past one character. -/
theorem On.cons {x : Char} {r : List Char} {n : Nat} (h : On p ⟨x :: r, n⟩) :
    On p ⟨r, n + x.utf8Size⟩ := by
  obtain ⟨before, hp, hn⟩ := h
  refine ⟨before ++ [x], by simpa using hp, ?_⟩
  have hn : n = length before := hn
  simp [hn]

/-- Past several characters. -/
theorem On.append (taken : List Char) {r : List Char} {n : Nat}
    (h : On p ⟨taken ++ r, n⟩) : On p ⟨r, n + length taken⟩ := by
  induction taken generalizing n with
  | nil => exact h
  | cons x taken ih =>
      rw [length_cons, ← Nat.add_assoc]
      exact ih h.cons

/-- Moving on by a character stays on the pattern. -/
theorem On.advance {c : Cursor} (h : c.On p) : c.advance.On p := by
  unfold Cursor.advance
  split
  · exact h
  · next x r hr =>
      have hc : On p ⟨x :: r, c.pos⟩ := hr ▸ h
      exact hc.cons

/-- So does passing over blanks and comments. -/
theorem On.skip {b : Bool} {r : List Char} {n : Nat} (h : On p ⟨r, n⟩) :
    (Cursor.skip b r n).On p := by
  fun_induction Cursor.skip b r n with
  | case1 b n => exact h
  | case2 c r n ih => exact ih h.cons
  | case3 c r n _ ih => exact ih h.cons
  | case4 r n _ ih => exact ih h.cons
  | case5 c r n _ _ => exact h

/-- So does passing over whatever a mode ignores. -/
theorem On.space {v : Bool} {c : Cursor} (h : c.On p) : (c.space v).On p := by
  unfold Cursor.space
  split
  · exact On.skip h
  · exact h

theorem On.step {v : Bool} {c : Cursor} (h : c.On p) : (c.step v).On p :=
  h.advance.space

theorem On.blanks {r : List Char} {n : Nat} (h : On p ⟨r, n⟩) :
    (Cursor.blanks r n).On p := by
  fun_induction Cursor.blanks r n with
  | case1 n => exact h
  | case2 n c r _ ih => exact ih h.cons
  | case3 n c r _ => exact h

/-- A run leaves the cursor on the pattern, and every character of it has
a place there. -/
theorem On.run {v : Bool} {q : Char → Bool} {b : Bool} {acc : List Literal}
    {r : List Char} {n : Nat} (hacc : ∀ l ∈ acc, IsPlace p l.pos)
    (h : On p ⟨r, n⟩) :
    (∀ l ∈ (Cursor.run v q b acc r n).1, IsPlace p l.pos)
      ∧ (Cursor.run v q b acc r n).2.On p := by
  fun_induction Cursor.run v q b acc r n with
  | case1 b acc n => exact ⟨by simpa using hacc, h⟩
  | case2 acc c r n ih => exact ih hacc h.cons
  | case3 acc c r n _ ih => exact ih hacc h.cons
  | case4 acc c r n _ _ ih => exact ih hacc h.cons
  | case5 acc c r n _ _ _ ih =>
      refine ih (fun l hl => ?_) h.cons
      rcases List.mem_cons.1 hl with rfl | hl
      · exact h.isPlace
      · exact hacc l hl
  | case6 acc c r n _ _ _ => exact ⟨by simpa using hacc, h⟩

/-- So does collecting a run, each character of which has its place. -/
theorem On.collect {v : Bool} {q : Char → Bool} {c : Cursor} (h : c.On p) :
    (∀ l ∈ (c.collect v q).1, IsPlace p l.pos) ∧ (c.collect v q).2.On p :=
  On.run (by simp) h

end Cursor

-- ============================================================== faults

/-- The characters of which one stands where a cause shows; none for a
cause that may show anywhere. -/
def Cause.marks : Cause → List Char
  | .groupUnclosed => ['(']
  | .lookAround => ['(']
  | .groupUnopened => [')']
  | .classUnclosed => ['[']
  | .nothingToRepeat => ['?', '*', '+', '\x7b']
  | .escapeUnknown => ['\\']
  | .backreference => ['\\']
  | _ => []

/-- A fault whose place is one of the pattern, with a character there that
its cause names. -/
def Fault.Apt (p : List Char) (f : Fault) : Prop :=
  IsPlace p f.pos
    ∧ (f.cause.marks = [] ∨ ∃ x ∈ f.cause.marks, HasMark p f.pos x)

/-- Whatever comes out well satisfies `good`, and every fault is apt. -/
def Located {α : Type} (p : List Char) (good : α → Prop) :
    Except Fault α → Prop
  | .ok a => good a
  | .error f => f.Apt p

/-- The same for a reading: the cursor it leaves is on the pattern. -/
def Read {α : Type} (p : List Char) (good : α → Prop) (x : Reading α) : Prop :=
  Located p (fun r => good r.1 ∧ r.2.On p) x

namespace Located

variable {α β : Type} {good : α → Prop} {better : β → Prop}

/-- Refusing at any place, for a cause that may show anywhere. -/
theorem refuse_at {cause : Cause} {n : Nat} (h : IsPlace p n)
    (hm : cause.marks = []) : Located p good (refuse cause n) := ⟨h, .inl hm⟩

/-- Refusing at a character that the cause names. -/
theorem refuse_mark {cause : Cause} {n : Nat} {x : Char} (h : HasMark p n x)
    (hm : x ∈ cause.marks) : Located p good (refuse cause n) :=
  ⟨h.isPlace, .inr ⟨x, hm, h⟩⟩

/-- What comes out is good. -/
theorem of_ok {x : Except Fault α} {a : α} (h : Located p good x)
    (hx : x = .ok a) : good a := by
  subst hx
  exact h

/-- A fault that comes out is apt. -/
theorem of_error {x : Except Fault α} {f : Fault} (h : Located p good x)
    (hx : x = .error f) : f.Apt p := by
  subst hx
  exact h

/-- One step after another. -/
theorem bind {x : Except Fault α} {f : α → Except Fault β}
    (hx : Located p good x) (hf : ∀ a, good a → Located p better (f a)) :
    Located p better (x >>= f) := by
  cases x with
  | error e => exact hx
  | ok a => exact hf a hx

/-- A step that cannot fail. -/
theorem map {x : Except Fault α} {f : α → β} (hx : Located p good x)
    (hf : ∀ a, good a → better (f a)) : Located p better (x.map f) := by
  cases x with
  | error e => exact hx
  | ok a => exact hf a hx

end Located

end PatternCheck.Pattern
