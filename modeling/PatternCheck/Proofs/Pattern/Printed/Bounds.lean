import PatternCheck.Proofs.Pattern.Place
import PatternCheck.Proofs.Pattern.Printed.Accepted

/-
A character with a count in braces after it. It is read as its repetition,
unless a bound is too large or the bounds are the wrong way round
(`ofPattern_counted`), and what is wrong decides where it is refused: at the
lower bound, at the upper one, or at the brace.
-/

namespace PatternCheck.Pattern

open State (outside)
open Text.Utf8 (length length_cons length_nil length_append)

-- ============================================================= patterns

/-- A character that stands for itself, with a count after it. -/
def countedChars (c : Char) (m : Bound) (u : Upper) : List Char :=
  escapeChar c ++ countChars m u

/-- The character is repeated as often as the count says, if the count is
one. -/
theorem ofPattern_counted (c : Char) (m : Bound) (u : Upper) :
    Node.ofPattern (countedChars c m u) =
      (boundsOutcome m u (length (escapeChar c))).bind fun count =>
        if count.isOrdered then
          .ok (.repetition 0 count false
            (.atom (.literal { pos := 0, char := c })))
        else refuse .countReversed (length (escapeChar c)) := by
  have counted :=
    readCount_chars m u false
      (show ([] : List Char).head? ≠ some '?' by decide)
      (length (escapeChar c))
  have text : countChars m u ++ (lazyMark false ++ []) = countChars m u :=
    List.append_nil _
  rw [text] at counted
  have read : Node.ofPattern (countedChars c m u) =
      (outside (countChars m u) (length (escapeChar c))
        ((Level.start 0).push (.atom (.literal { pos := 0, char := c }))) []
        []).run := by
    rw [← Nat.zero_add (length (escapeChar c))]
    exact State.run_escapeChar c
  rw [read]
  cases bounds : boundsOutcome m u (length (escapeChar c)) with
  | error f =>
      rw [bounds] at counted
      exact State.run_repeat_refused rfl rfl counted
  | ok count =>
      rw [bounds] at counted
      by_cases ordered : count.isOrdered = true
      · have repeated := counted.trans (if_pos ordered)
        refine (State.run_repeat rfl rfl repeated).trans ?_
        exact (State.run_of_done rfl).trans (if_pos ordered).symm
      · have refused := counted.trans (if_neg ordered)
        exact (State.run_repeat_refused rfl rfl refused).trans
          (if_neg ordered).symm

-- ============================================================= checking

/-- The pattern of a character with a count. -/
def counted (c : Char) (m : Bound) (u : Upper) : String :=
  String.ofList (countedChars c m u)

section Checking

variable {l : Limits} {c : Char} {m k : Bound} {u : Upper}

/-- Bounds in the right order are rejected for the size at most. -/
theorem check_counted_of_ordered (deep : 1 ≤ l.nesting) {count : Count}
    (bounds : boundsOutcome m u (length (escapeChar c)) = .ok count)
    (ordered : count.isOrdered = true) :
    l.check (counted c m u) = .ok ()
      ∨ l.check (counted c m u) = .error (.tooLarge l.size) := by
  have read := ofPattern_counted c m u
  rw [bounds] at read
  exact Limits.check_of_known (read.trans (if_pos ordered)) deep trivial

/-- A lower bound that is too large is rejected, whatever the upper one is. -/
theorem check_counted_of_lower (h : countBound ≤ m.value) :
    l.check (counted c m u) = .error (.syntaxError
      ⟨Cause.countInvalid.message, some (escapeChar c ++ ['{']).length⟩) := by
  have text :
      countedChars c m u = (escapeChar c ++ ['{'])
        ++ (m.chars ++ (u.chars ++ ['}'])) := by
    simp [countedChars, countChars]
  have bounds : boundsOutcome m u (length (escapeChar c)) =
      .error ⟨.countInvalid, length (escapeChar c ++ ['{'])⟩ := by
    rw [boundsOutcome, Bound.outcome_of_le h, length_append]
    rfl
  have read := ofPattern_counted c m u
  rw [bounds, text] at read
  rw [counted, text]
  exact Limits.check_of_unreadable read

/-- Then an upper bound that is too large is. -/
theorem check_counted_of_upper (hm : m.value < countBound)
    (h : countBound ≤ k.value) :
    l.check (counted c m (.limited k)) = .error (.syntaxError
      ⟨Cause.countInvalid.message,
        some (escapeChar c ++ '{' :: (m.chars ++ [','])).length⟩) := by
  have text : countedChars c m (.limited k) =
      (escapeChar c ++ '{' :: (m.chars ++ [','])) ++ (k.chars ++ ['}']) := by
    simp [countedChars, countChars, Upper.chars]
  have width : length (escapeChar c ++ '{' :: (m.chars ++ [','])) =
      length (escapeChar c) + 1 + length m.chars + 1 := by
    simp only [length_append, length_cons, length_nil, ← Nat.add_assoc]
    rfl
  have bounds : boundsOutcome m (.limited k) (length (escapeChar c)) =
      .error
      ⟨.countInvalid, length (escapeChar c ++ '{' :: (m.chars ++ [',']))⟩ := by
    rw [boundsOutcome, Bound.outcome_of_lt hm, width]
    exact congrArg (Except.map _) (Bound.outcome_of_le h _)
  have read := ofPattern_counted c m (.limited k)
  rw [bounds, text] at read
  rw [counted, text]
  exact Limits.check_of_unreadable read

/-- Bounds that can both be read are rejected if they are the wrong way
round. -/
theorem check_counted_of_reversed (hm : m.value < countBound)
    (h : k.value < m.value) :
    l.check (counted c m (.limited k)) = .error (.syntaxError
      ⟨Cause.countReversed.message, some (escapeChar c).length⟩) := by
  have read := ofPattern_counted c m (.limited k)
  have reversed : ¬ Count.isOrdered ⟨m.value, some k.value⟩ = true := by
    simpa [Count.isOrdered] using h
  rw [boundsOutcome_of_lt hm (Nat.lt_trans h hm)] at read
  exact Limits.check_of_unreadable (read.trans (if_neg reversed))

/-- Where there is no upper bound to be read, the lower one decides. -/
theorem check_counted_single (deep : 1 ≤ l.nesting) {count : Count}
    (single : ∀ n, u.outcome m.value n = .ok count)
    (ordered : count.isOrdered = true) :
    (∃ d, l.check (counted c m u) = .error (.syntaxError d)) ↔
      countBound ≤ m.value := by
  refine ⟨fun refused => ?_, fun h => ⟨_, check_counted_of_lower h⟩⟩
  by_contra small
  have bounds : boundsOutcome m u (length (escapeChar c)) = .ok count := by
    rw [boundsOutcome, Bound.outcome_of_lt (Nat.lt_of_not_le small)]
    exact single _
  exact Limits.not_syntaxError
    (check_counted_of_ordered deep bounds ordered) refused

end Checking

/-- A count is refused if one of its bounds has no place in 32 bits, and then
if they are the wrong way round; otherwise it is rejected for its size at
most. A count with a single bound is refused for that bound alone. -/
theorem check_counted (l : Limits) (deep : 1 ≤ l.nesting) (c : Char)
    (m k : Bound) :
    (4294967296 ≤ m.value →
        l.check (counted c m (.limited k)) = .error (.syntaxError
          ⟨"decimal literal invalid", some (escapeChar c ++ ['{']).length⟩)) ∧
      (m.value < 4294967296 → 4294967296 ≤ k.value →
        l.check (counted c m (.limited k)) = .error (.syntaxError
          ⟨"decimal literal invalid",
            some (escapeChar c ++ '{' :: (m.chars ++ [','])).length⟩)) ∧
      (m.value < 4294967296 → k.value < m.value →
        l.check (counted c m (.limited k)) = .error (.syntaxError
          ⟨"invalid repetition count range, the start must be <= the end",
            some (escapeChar c).length⟩)) ∧
      (m.value ≤ k.value → k.value < 4294967296 →
        l.check (counted c m (.limited k)) = .ok () ∨
          l.check (counted c m (.limited k)) = .error (.tooLarge l.size)) ∧
      ((∃ d, l.check (counted c m .same) = .error (.syntaxError d)) ↔
        4294967296 ≤ m.value) ∧
      ((∃ d, l.check (counted c m .unlimited) = .error (.syntaxError d)) ↔
        4294967296 ≤ m.value) := by
  refine ⟨check_counted_of_lower, check_counted_of_upper,
    check_counted_of_reversed, fun ordered small => ?_, ?_, ?_⟩
  · exact check_counted_of_ordered deep
      (boundsOutcome_of_lt (Nat.lt_of_le_of_lt ordered small) small _)
      (decide_eq_true ordered)
  · exact check_counted_single deep (fun _ => rfl)
      (decide_eq_true (Nat.le_refl m.value))
  · exact check_counted_single deep (fun _ => rfl) rfl

/-- Zeros in front change neither a bound that is just too large nor the order
of two bounds; an opening brace takes two characters. -/
theorem check_counted_brace :
    counted '{' ⟨4294967296, 2⟩ (.limited ⟨1, 0⟩)
      = "\\\x7b\x7b004294967296,1\x7d" ∧
        Limits.check ⟨10485760, 1⟩ "\\\x7b\x7b004294967296,1\x7d"
          = .error (.syntaxError
        ⟨"decimal literal invalid", some 3⟩) ∧
      counted '{' ⟨12, 0⟩ (.limited ⟨9, 1⟩) = "\\\x7b\x7b12,09\x7d" ∧
      Limits.check ⟨10485760, 1⟩ "\\\x7b\x7b12,09\x7d" = .error (.syntaxError
        ⟨"invalid repetition count range, the start must be <= the end",
          some 2⟩) := by
  have large : counted '{' ⟨4294967296, 2⟩ (.limited ⟨1, 0⟩) =
      "\\\x7b\x7b004294967296,1\x7d" := by decide
  have reversed :
      counted '{' ⟨12, 0⟩ (.limited ⟨9, 1⟩) = "\\\x7b\x7b12,09\x7d" := by
    decide
  have invalid :=
    (check_counted ⟨10485760, 1⟩ (Nat.le_refl 1) '{' ⟨4294967296, 2⟩ ⟨1, 0⟩).1
      (Nat.le_refl _)
  have refused :=
    (check_counted ⟨10485760, 1⟩ (Nat.le_refl 1) '{' ⟨12, 0⟩ ⟨9, 1⟩).2.2.1
      (by decide) (by decide)
  rw [large] at invalid
  rw [reversed] at refused
  exact ⟨large, invalid, reversed, refused⟩

end PatternCheck.Pattern
