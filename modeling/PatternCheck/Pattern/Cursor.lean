import PatternCheck.Pattern.Fault
import PatternCheck.Pattern.Node
import PatternCheck.Text.Blank

/-
A place in a pattern: the characters still to be read and how many bytes
came before them. All reading goes through the few moves defined here. In
verbose mode blanks and comments (from `#` to the end of the line) do
not count, and `space`, `step` and `collect` pass over them.

Each move has a lemma that it gives characters back to nobody: what is
left is never longer than before. The reader's termination rests on
these.
-/

namespace PatternCheck.Pattern

open Text (isBlank)

/-- The characters still to be read and the number of bytes before. -/
structure Cursor where
  rest : List Char
  pos : Nat
deriving Repr, DecidableEq, Inhabited

namespace Cursor

/-- The place before the first character. -/
def start (pattern : List Char) : Cursor := ⟨pattern, 0⟩

/-- How many characters are left. -/
def left (c : Cursor) : Nat := c.rest.length

/-- Past one character; at the end there is none. -/
def advance (c : Cursor) : Cursor :=
  match c.rest with
  | [] => c
  | x :: rest => ⟨rest, c.pos + x.utf8Size⟩

-- ====================================================== ignored text

/-- Past blanks and comments; the first argument says whether a comment
is open. -/
def skip : Bool → List Char → Nat → Cursor
  | _, [], n => ⟨[], n⟩
  | true, c :: r, n => skip (c != '\n') r (n + c.utf8Size)
  | false, c :: r, n =>
    if isBlank c then skip false r (n + c.utf8Size)
    else if c = '#' then skip true r (n + c.utf8Size)
    else ⟨c :: r, n⟩

/-- Past what verbose mode ignores. -/
def space (verbose : Bool) (c : Cursor) : Cursor :=
  if verbose then skip false c.rest c.pos else c

/-- Past one character and what verbose mode ignores after it. -/
def step (verbose : Bool) (c : Cursor) : Cursor := c.advance.space verbose

/-- Past blanks, in any mode. -/
def blanks : List Char → Nat → Cursor
  | [], n => ⟨[], n⟩
  | c :: r, n => if isBlank c then blanks r (n + c.utf8Size) else ⟨c :: r, n⟩

-- ============================================================== runs

/-- The longest run of characters that satisfy `p`, each with its place,
and the cursor after it. In verbose mode ignored text may stand between
them. `comment` says whether a comment is open; `acc` holds the run so
far, latest first. -/
def run (verbose : Bool) (p : Char → Bool) :
    Bool → List Literal → List Char → Nat → List Literal × Cursor
  | _, acc, [], n => (acc.reverse, ⟨[], n⟩)
  | true, acc, c :: r, n => run verbose p (c != '\n') acc r (n + c.utf8Size)
  | false, acc, c :: r, n =>
    if verbose && isBlank c then run verbose p false acc r (n + c.utf8Size)
    else if verbose && c = '#' then run verbose p true acc r (n + c.utf8Size)
    else if p c then
      run verbose p false ({ pos := n, char := c } :: acc) r (n + c.utf8Size)
    else (acc.reverse, ⟨c :: r, n⟩)

/-- The longest run of characters that satisfy `p`. -/
def collect (verbose : Bool) (p : Char → Bool) (c : Cursor) :
    List Literal × Cursor :=
  run verbose p false [] c.rest c.pos

-- ==================================================== what is left

@[simp] theorem left_mk (r : List Char) (n : Nat) :
    (⟨r, n⟩ : Cursor).left = r.length := rfl

/-- Past one character there is one less; at the end there is none to pass. -/
theorem advance_left (c : Cursor) : c.advance.left = c.left - 1 := by
  unfold advance left
  split <;> simp_all

/-- In front of a character there is one. -/
theorem advance_left_lt {c : Cursor} (h : c.rest ≠ []) :
    c.advance.left < c.left := by
  have : 0 < c.left := List.length_pos_iff.2 h
  rw [advance_left]
  omega

theorem advance_left_le (c : Cursor) : c.advance.left ≤ c.left := by
  rw [advance_left]; omega

/-- Blanks and comments are passed over, and nothing is put back. -/
theorem skip_left_le (b : Bool) (r : List Char) (n : Nat) :
    (skip b r n).left ≤ r.length := by
  fun_induction skip b r n <;> simp_all <;> omega

/-- The same in either mode. -/
theorem space_left_le (v : Bool) (c : Cursor) : (c.space v).left ≤ c.left := by
  unfold space
  split
  · exact skip_left_le ..
  · exact Nat.le_refl _

/-- A step takes the character, and perhaps more. -/
theorem step_left_lt {c : Cursor} (v : Bool) (h : c.rest ≠ []) :
    (c.step v).left < c.left :=
  Nat.lt_of_le_of_lt (space_left_le v _) (advance_left_lt h)

theorem step_left_le (v : Bool) (c : Cursor) : (c.step v).left ≤ c.left :=
  Nat.le_trans (space_left_le v _) (advance_left_le c)

theorem blanks_left_le (r : List Char) (n : Nat) :
    (blanks r n).left ≤ r.length := by
  fun_induction blanks r n <;> (simp_all; try omega)

/-- The characters of a run are taken, and those ignored between them. -/
theorem run_left_le (v : Bool) (p : Char → Bool) (b : Bool)
    (acc : List Literal) (r : List Char) (n : Nat) :
    (run v p b acc r n).2.left ≤ r.length := by
  fun_induction run v p b acc r n <;> simp_all <;> omega

/-- A run may be empty. -/
theorem collect_left_le (v : Bool) (p : Char → Bool) (c : Cursor) :
    (c.collect v p).2.left ≤ c.left := run_left_le ..

end Cursor

/-- The outcome of reading something at a cursor: the thing and the place
after it. -/
abbrev Reading (α : Type) := Except Fault (α × Cursor)

end PatternCheck.Pattern
