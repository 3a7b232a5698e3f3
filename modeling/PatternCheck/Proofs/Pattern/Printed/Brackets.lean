import PatternCheck.Proofs.Pattern.Place
import PatternCheck.Proofs.Pattern.Printed.Accepted
import Mathlib.Data.List.TakeWhile

/-
Ranges in brackets as a whole pattern, whichever way round the ends of each
range are. Ranges that are the right way round are items of the class, and
the class has a meaning. The first one that is not is what the reader stops
at, wherever it stands in the list; so nothing depends on what comes after
it (`ofPattern_reversed`).
-/

namespace PatternCheck.Pattern

open State (caret inside outside)
open Text.Utf8 (length length_cons length_nil length_append)

-- ============================================================== writing

/-- A range as it is written, whichever of its ends comes first. -/
def rangeChars (ends : Char × Char) : List Char :=
  escapeChar ends.1 ++ '-' :: escapeChar ends.2

/-- Ranges in brackets, of which the complement may be asked for. -/
def bracketChars (negated : Bool) (ranges : List (Char × Char)) : List Char :=
  '[' :: (caret negated ++ (ranges.flatMap rangeChars ++ [']']))

/-- The ends of a range. -/
def CharRange.ends (r : CharRange) : Char × Char := (r.lo, r.hi)

theorem exists_charRanges {ranges : List (Char × Char)}
    (h : ∀ p ∈ ranges, p.1 ≤ p.2) :
    ∃ rs : List CharRange, ranges = rs.map CharRange.ends := by
  induction ranges with
  | nil => exact ⟨[], rfl⟩
  | cons p ranges ih =>
      obtain ⟨rs, hrs⟩ := ih fun q hq => h q (List.mem_cons_of_mem _ hq)
      exact ⟨⟨p.1, p.2, h p List.mem_cons_self⟩ :: rs, congrArg (p :: ·) hrs⟩

/-- Behind the ranges that are the right way round stands one that is not, if
there is one at all. -/
theorem exists_reversed {ranges : List (Char × Char)}
    (h : ¬ ∀ p ∈ ranges, p.1 ≤ p.2) :
    ∃ a b after, b < a ∧
      ranges = (ranges.takeWhile fun p => p.1 ≤ p.2) ++ (a, b) :: after := by
  have first :=
    List.head?_dropWhile_not (fun p : Char × Char => decide (p.1 ≤ p.2)) ranges
  have parts :=
    List.takeWhile_append_dropWhile
      (p := fun p : Char × Char => decide (p.1 ≤ p.2)) (l := ranges)
  cases rest : ranges.dropWhile fun p => p.1 ≤ p.2 with
  | nil => exact absurd (by simpa using List.dropWhile_eq_nil_iff.1 rest) h
  | cons p after =>
      rw [rest] at first parts
      exact ⟨p.1, p.2, after, Char.not_le.1 (of_decide_eq_false first),
        parts.symm⟩

theorem flatMap_ends (rs : List CharRange) :
    (rs.map CharRange.ends).flatMap rangeChars = rs.flatMap CharRange.chars :=
  List.flatMap_map ..

/-- Ranges begin like an escaped character. -/
theorem flatMap_rangeChars_cons {ranges : List (Char × Char)}
    (ne : ranges ≠ []) :
    ∃ x tail, ranges.flatMap rangeChars = x :: tail ∧ BeginsEscaped x := by
  obtain ⟨p, ranges, rfl⟩ := List.exists_cons_of_ne_nil ne
  obtain ⟨x, tail, hp, hx⟩ := escapeChar_cons p.1
  exact ⟨x, tail ++ '-' :: escapeChar p.2 ++ ranges.flatMap rangeChars,
    by simp [List.flatMap_cons, rangeChars, hp], hx⟩

-- ============================================================== reading

section Reading

variable {rest : List Char} {n : Nat} {l : Level} {gs : List OpenGroup}
  {names : List String} {o : OpenClass}

/-- A range that is the wrong way round is refused, at its first end. -/
theorem State.run_reversed {a b : Char} (h : b < a) :
    (inside (rangeChars (a, b) ++ rest) n l gs names o).run =
      .error ⟨.classRangeReversed, n⟩ := by
  obtain ⟨x, tail, ha, hx⟩ := escapeChar_cons a
  have text :
      rangeChars (a, b) ++ rest
        = x :: (tail ++ '-' :: (escapeChar b ++ rest)) := by
    simp [rangeChars, ha]
  have item :
      readItem false o.pos ⟨x :: (tail ++ '-' :: (escapeChar b ++ rest)), n⟩ =
        .error ⟨.classRangeReversed, n⟩ := by
    have read :
        readItem false o.pos ⟨escapeChar a ++ '-' :: (escapeChar b ++ rest), n⟩
          = _ :=
      readItem_escaped a b o.pos
    rw [ha, List.cons_append] at read
    rw [read]
    simp only [rangeItem, Atom.toBound, bind, Except.bind, if_pos h]
    rfl
  have next :
      (inside (x :: (tail ++ '-' :: (escapeChar b ++ rest))) n l gs names
        o).nextInside o
        [] ⟨x :: (tail ++ '-' :: (escapeChar b ++ rest)), n⟩
          = .error ⟨.classRangeReversed, n⟩ :=
    (nextInside_item hx).trans (congrArg (Except.map _) item)
  rw [text]
  exact run_of_error (congrArg (Except.map Step.more) next)

end Reading

/-- Ranges that are the right way round are read as one class. -/
theorem ofPattern_bracketChars (negated : Bool) {rs : List CharRange}
    (ne : rs ≠ []) :
    Node.ofPattern (bracketChars negated (rs.map CharRange.ends)) =
      .ok (.bracketed 0 negated (.ofItems (1 + length (caret negated))
        (CharRange.items (1 + length (caret negated)) rs))) := by
  rw [bracketChars, flatMap_ends]
  refine (State.run_class negated ne).trans (State.run_of_done ?_)
  simp only [Nat.zero_add]
  rfl

/-- Of ranges of which some are the wrong way round, the first such one is
refused. -/
theorem ofPattern_reversed (negated : Bool) {before after : List (Char × Char)}
    {a b : Char} (ordered : ∀ p ∈ before, p.1 ≤ p.2) (h : b < a) :
    Node.ofPattern (bracketChars negated (before ++ (a, b) :: after)) =
      .error ⟨.classRangeReversed, length
        ('[' :: (caret negated ++ before.flatMap rangeChars))⟩ := by
  obtain ⟨rs, rfl⟩ := exists_charRanges ordered
  obtain ⟨x, tail, first, hx⟩ :=
    flatMap_rangeChars_cons
      (show rs.map CharRange.ends ++ (a, b) :: after ≠ [] by simp)
  have text : x :: (tail ++ [']']) = rs.flatMap CharRange.chars ++
      (rangeChars (a, b) ++ (after.flatMap rangeChars ++ [']'])) := by
    rw [← List.cons_append, ← first, List.flatMap_append, flatMap_ends]
    simp
  have width :
      length
      ('[' :: (caret negated ++ (rs.map CharRange.ends).flatMap rangeChars)) =
        0 + 1 + length (caret negated)
          + length (rs.flatMap CharRange.chars) := by
    rw [length_cons, length_append, flatMap_ends, Nat.zero_add, Nat.add_assoc]
    rfl
  rw [width, bracketChars, first, List.cons_append]
  refine (State.run_openClass hx negated).trans ?_
  rw [text, State.run_ranges, State.run_reversed h]

-- ============================================================== meaning

/-- Ranges side by side are at most one level. -/
theorem CharRange.depth_items (rs : List CharRange) (n : Nat) :
    (ClassSet.ofItems n (CharRange.items n rs)).depth ≤ 1 := by
  have flat :
      ∀ (rs : List CharRange) (n : Nat), ClassSet.depths (CharRange.items n rs)
        = 0 := by
    intro rs
    induction rs with
    | nil => exact fun _ => rfl
    | cons r rs ih =>
        intro n
        rw [CharRange.items, ClassSet.depths, ih]
        rfl
  rcases rs with _ | ⟨r, _ | ⟨r', rs⟩⟩
  · exact Nat.zero_le _
  · exact Nat.zero_le _
  · have level :
        (ClassSet.ofItems n (CharRange.items n (r :: r' :: rs))).depth =
          ClassSet.depths (CharRange.items n (r :: r' :: rs)) + 1 := rfl
    rw [level, flat]

section Checking

variable {l : Limits} {negated : Bool} {ranges : List (Char × Char)}

/-- Ranges that are the right way round are rejected for their size at
most. -/
theorem check_of_ordered (deep : 2 ≤ l.nesting) (ne : ranges ≠ [])
    (h : ∀ p ∈ ranges, p.1 ≤ p.2) :
    l.check (String.ofList (bracketChars negated ranges)) = .ok () ∨
      l.check (String.ofList (bracketChars negated ranges))
        = .error (.tooLarge l.size) := by
  obtain ⟨rs, rfl⟩ := exists_charRanges h
  have read := ofPattern_bracketChars negated (show rs ≠ [] by simpa using ne)
  refine Limits.check_of_known read ?_ ?_
  -- the class is a level, and its ranges are one more if there are several
  · exact Nat.le_trans (Nat.succ_le_succ (CharRange.depth_items rs _)) deep
  · exact (CharRange.allKnown_items rs _).ofItems _

/-- The first range that is the wrong way round decides, if there is one. -/
theorem check_of_reversed (h : ¬ ∀ p ∈ ranges, p.1 ≤ p.2) :
    l.check (String.ofList (bracketChars negated ranges)) =
      .error
        (.syntaxError ⟨Cause.classRangeReversed.message,
          some ('[' :: (caret negated ++
        (ranges.takeWhile fun p => p.1 ≤ p.2).flatMap
          rangeChars)).length⟩) := by
  obtain ⟨a, b, after, reversed, split⟩ := exists_reversed h
  have ordered : ∀ p ∈ ranges.takeWhile fun p => p.1 ≤ p.2, p.1 ≤ p.2 := by
    intro p hp
    simpa using List.mem_takeWhile_imp hp
  generalize (ranges.takeWhile fun p => p.1 ≤ p.2) = before at split ordered ⊢
  have text : bracketChars negated (before ++ (a, b) :: after) =
      '[' :: (caret negated ++ before.flatMap rangeChars) ++
        ((((a, b) :: after).flatMap rangeChars) ++ [']']) := by
    simp [bracketChars]
  have refused :
      Node.ofPattern (bracketChars negated (before ++ (a, b) :: after)) = _ :=
    ofPattern_reversed negated ordered reversed
  rw [text] at refused
  rw [split, text]
  exact Limits.check_of_unreadable refused

end Checking

/-- Ranges in brackets are in order as far as their syntax goes if and only if
each of them is the right way round; they are then rejected for their size
at most. Otherwise they are rejected where the first range begins that is
the wrong way round. -/
theorem check_ranges (l : Limits) (deep : 2 ≤ l.nesting) (negated : Bool)
    (ranges : List (Char × Char)) (ne : ranges ≠ []) :
    ((¬ ∃ d, l.check (String.ofList (bracketChars negated ranges))
      = .error (.syntaxError d)) ↔
        ∀ p ∈ ranges, p.1 ≤ p.2) ∧
      ((∀ p ∈ ranges, p.1 ≤ p.2) →
        l.check (String.ofList (bracketChars negated ranges)) = .ok () ∨
          l.check (String.ofList (bracketChars negated ranges))
            = .error (.tooLarge l.size)) ∧
      ((¬ ∀ p ∈ ranges, p.1 ≤ p.2) →
        l.check (String.ofList (bracketChars negated ranges))
          = .error (.syntaxError
          ⟨"invalid character class range, the start must be <= the end",
            some ('[' :: (caret negated ++
              (ranges.takeWhile fun p => p.1 ≤ p.2).flatMap
                rangeChars)).length⟩)) := by
  refine ⟨⟨fun inOrder => ?_, fun ordered => ?_⟩, check_of_ordered deep ne,
    check_of_reversed⟩
  · by_contra reversed
    exact inOrder ⟨_, check_of_reversed reversed⟩
  · exact Limits.not_syntaxError (check_of_ordered deep ne ordered)

/-- From a dash to a closing bracket is a range, but none goes back from a
longer character to a caret, and the places count characters. -/
theorem check_ranges_dashes :
    [('-', ']'), ('é', '^')] ≠ [] ∧
      (¬ ∀ p ∈ [('-', ']'), ('é', '^')], p.1 ≤ p.2) ∧
      String.ofList (bracketChars true [('-', ']'), ('é', '^')])
        = "[^\\--\\]é-\\^]" ∧
      Limits.check ⟨10485760, 2⟩ "[^\\--\\]é-\\^]" = .error (.syntaxError
        ⟨"invalid character class range, the start must be <= the end",
          some 7⟩) := by
  have reversed : ¬ ∀ p ∈ [('-', ']'), ('é', '^')], p.1 ≤ p.2 :=
    fun h => absurd (h ('é', '^') (by simp)) (by decide)
  have text :
      String.ofList (bracketChars true [('-', ']'), ('é', '^')])
        = "[^\\--\\]é-\\^]" := by
    decide
  have verdict :=
    (check_ranges ⟨10485760, 2⟩ (Nat.le_refl 2) true [('-', ']'), ('é', '^')]
      (by simp)).2.2 reversed
  rw [text] at verdict
  exact ⟨by simp, reversed, text, verdict⟩

end PatternCheck.Pattern
