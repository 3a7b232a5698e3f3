import PatternCheck.Pattern.Reader
import PatternCheck.Proofs.Text.Utf8

/-
Texts that stand for themselves. Every character that means something
somewhere in a pattern is written with a backslash (`escape`), and is
then read as the character it is (`Atom.read_escapeChar`). What an
escaped character begins with is either the backslash or nothing special
(`escapeChar_cons`), so whoever looks at the next character only to find
an operator finds none.
-/

namespace PatternCheck.Pattern

open Text.Utf8 (length length_cons length_nil)

-- ============================================================ escaping

/-- The characters that mean something by themselves somewhere in a
pattern. -/
def specials : List Char :=
  ['\\', '.', '+', '*', '?', '(', ')', '|', '[', ']', '{', '}', '^', '$', '#',
    '&', '-', '~']

/-- A character that stands for itself. -/
def escapeChar (c : Char) : List Char :=
  if c ∈ specials then ['\\', c] else [c]

/-- A text that stands for itself. -/
def escape (cs : List Char) : List Char := cs.flatMap escapeChar

/-- A character that may begin an escaped one: no operator does. -/
def BeginsEscaped (x : Char) : Prop := x = '\\' ∨ x ∉ specials

theorem escapeChar_cons (c : Char) :
    ∃ x tail, escapeChar c = x :: tail ∧ BeginsEscaped x := by
  unfold escapeChar
  split
  · exact ⟨'\\', [c], rfl, .inl rfl⟩
  · next h => exact ⟨c, [], rfl, .inr h⟩

/-- What begins an escaped character is no special character but the
backslash. -/
theorem BeginsEscaped.ne {x y : Char} (h : BeginsEscaped x) (hy : y ∈ specials)
    (hne : y ≠ '\\') : x ≠ y := by
  rintro rfl
  rcases h with h | h
  · exact hne h
  · exact h hy

-- ============================================================= moving

namespace Cursor

/-- Outside of verbose mode nothing is ignored. -/
theorem space_false (c : Cursor) : c.space false = c := rfl

theorem step_false (c : Cursor) : c.step false = c.advance := rfl

theorem advance_cons (x : Char) (rest : List Char) (n : Nat) :
    (⟨x :: rest, n⟩ : Cursor).advance = ⟨rest, n + x.utf8Size⟩ := rfl

end Cursor

-- ============================================================ reading

/-- No special character has a meaning of its own after a backslash. -/
theorem readEscape_special {c : Char} (h : c ∈ specials) (start n : Nat)
    (rest : List Char) :
    readEscape false start ⟨c :: rest, n⟩ =
      .ok (.literal { pos := start, char := c }, ⟨rest, n + c.utf8Size⟩) := by
  simp only [specials, List.mem_cons, List.not_mem_nil, or_false] at h
  rcases h with rfl | rfl | rfl | rfl | rfl | rfl | rfl | rfl | rfl | rfl | rfl
    | rfl | rfl | rfl | rfl | rfl | rfl | rfl <;> rfl

/-- A character without a backslash is read as itself. -/
theorem Atom.read_plain {x : Char} (h : x ≠ '\\') (v : Bool) (rest : List Char)
    (n : Nat) :
    Atom.read v ⟨x :: rest, n⟩ =
      .ok (.literal { pos := n, char := x }, ⟨rest, n + x.utf8Size⟩) := by
  unfold Atom.read
  split
  · next e => exact absurd (List.cons.inj e).1 h
  · next e => cases e; rfl
  · next e => cases e

/-- An escaped character is read as the character it is. -/
theorem Atom.read_escapeChar (c : Char) (rest : List Char) (n : Nat) :
    Atom.read false ⟨escapeChar c ++ rest, n⟩ =
      .ok (.literal { pos := n, char := c },
        ⟨rest, n + length (escapeChar c)⟩) := by
  unfold escapeChar
  split
  · next h =>
      refine (readEscape_special h n (n + '\\'.utf8Size) rest).trans ?_
      simp only [length_cons, length_nil, Nat.add_assoc, Nat.add_zero]
  · next h =>
      have notEscape : c ≠ '\\' := fun e => h (by simp [e, specials])
      refine (Atom.read_plain notEscape false rest n).trans ?_
      simp only [length_cons, length_nil, Nat.add_zero]

end PatternCheck.Pattern
