import PatternCheck.Proofs.Pattern.Located.Tree
import PatternCheck.Proofs.Pattern.Outline
import PatternCheck.Proofs.Pattern.Printed.Accepted
import Mathlib.Logic.Basic

/-
What a nesting limit decides. For a pattern that cannot be read it
decides nothing; otherwise it is compared with the depth of the tree
alone, and names the first node that it forbids (`check_nesting`). Groups
inside groups show what this comes to: their depth is how many there are
(`Expression.groups`).
-/

namespace PatternCheck.Pattern

-- ========================================================== two outcomes

/-- The pattern cannot be read, and is rejected in the same words whatever
the nesting limit is. -/
def Unreadable (size : Nat) (pattern : String) : Prop :=
  ∃ f, Node.ofPattern pattern.toList = .error f ∧
    ∀ n, Limits.check ⟨size, n⟩ pattern
      = .error (.syntaxError (.ofFault pattern.toList f))

/-- The pattern is read as a tree, and its depth is the least nesting limit
that has no say in the verdict. Every smaller limit `n` is reported
itself, with the place of the first node of level `n + 1`. -/
def Graded (size : Nat) (pattern : String) : Prop :=
  ∃ x, Node.ofPattern pattern.toList = .ok x ∧
    (∀ n < x.depth, ∃ pos i, firstAt? (n + 1) (x.outline 0) = some pos ∧
      Diagnostic.charsBefore? pattern.toList pos = some i ∧
      Limits.check ⟨size, n⟩ pattern = .error (.syntaxError
        ⟨s!"exceed the maximum number of nested parentheses/brackets ({n})",
          some i⟩)) ∧
    ∀ n m, x.depth ≤ n → x.depth ≤ m →
      Limits.check ⟨size, n⟩ pattern = Limits.check ⟨size, m⟩ pattern

variable {size n : Nat} {pattern : String} {x : Node}

/-- A pattern with a fault is refused for it under every limit. -/
theorem unreadable_of_error {f : Fault}
    (h : Node.ofPattern pattern.toList = .error f) : Unreadable size pattern :=
  ⟨f, h, fun _ => Limits.check_of_fault (analyse_of_unreadable h)⟩

/-- A limit below the depth is reported where the tree first exceeds it. -/
theorem check_of_lt_depth (h : Node.ofPattern pattern.toList = .ok x)
    (hn : n < x.depth) :
    ∃ pos i, firstAt? (n + 1) (x.outline 0) = some pos ∧
      Diagnostic.charsBefore? pattern.toList pos = some i ∧
      Limits.check ⟨size, n⟩ pattern =
        .error (.syntaxError ⟨(Cause.tooDeep n).message, some i⟩) := by
  obtain ⟨pos, beyond⟩ : ∃ pos, x.beyond? n = some pos := by
    refine Option.ne_none_iff_exists'.1 fun none => ?_
    exact Nat.not_le.2 hn ((Node.beyond?_eq_none_iff n x).1 none)
  -- the reader only builds nodes at places of the pattern, so no offset is
  -- left in bytes
  have within : x.Within pattern.toList :=
    (Node.ofPattern_located pattern.toList).of_ok h
  obtain ⟨i, -, place⟩ := (Node.beyond?_isPlace x within beyond).charsBefore?
  refine ⟨pos, i, ?_, place, ?_⟩
  · rw [← beyond, x.beyond?_eq_first n 0, Nat.zero_add]
  · rw [Limits.check_of_fault (l := ⟨size, n⟩) (analyse_of_beyond h beyond),
      Diagnostic.ofFault, Diagnostic.charOffset, place, Option.getD_some]

/-- Limits that a tree keeps to make no difference to each other. -/
theorem check_of_depth_le {m : Nat} (h : Node.ofPattern pattern.toList = .ok x)
    (hn : x.depth ≤ n) (hm : x.depth ≤ m) :
    Limits.check ⟨size, n⟩ pattern = Limits.check ⟨size, m⟩ pattern := by
  have alike : analyse n pattern.toList = analyse m pattern.toList := by
    rw [analyse_of_within h ((Node.beyond?_eq_none_iff n x).2 hn),
      analyse_of_within h ((Node.beyond?_eq_none_iff m x).2 hm)]
  cases meaning : analyse m pattern.toList with
  | error f =>
      rw [Limits.check_of_fault (l := ⟨size, n⟩) (alike.trans meaning),
        Limits.check_of_fault (l := ⟨size, m⟩) meaning]
  | ok matcher =>
      rw [Limits.check_of_matcher (l := ⟨size, n⟩) (alike.trans meaning),
        Limits.check_of_matcher (l := ⟨size, m⟩) meaning]

/-- Any other is refused for its depth under some limits, and only under
these. -/
theorem graded_of_ok (h : Node.ofPattern pattern.toList = .ok x) :
    Graded size pattern :=
  ⟨x, h, fun _ hn => check_of_lt_depth h hn,
    fun _ _ hn hm => check_of_depth_le h hn hm⟩

-- ==================================================== groups inside groups

namespace Expression

/-- A letter in `k` pairs of parentheses. -/
def groups : Nat → Expression
  | 0 => text ['a']
  | k + 1 => capture (groups k)

/-- As many parentheses close as open. -/
theorem chars_groups (k : Nat) :
    (groups k).chars = List.replicate k '('
      ++ 'a' :: List.replicate k ')' := by
  induction k with
  | zero => rfl
  | succ k ih =>
      rw [groups, chars, ih, List.replicate_succ, List.replicate_succ' ]
      simp

theorem names_groups (k : Nat) : (groups k).names = [] := by
  induction k with
  | zero => rfl
  | succ k ih => exact ih

/-- The depth of groups in groups is their number. -/
theorem depth_groups (k : Nat) :
    ∀ n, (Node.ofItems n ((groups k).nodes n)).depth = k := by
  induction k with
  | zero => exact fun _ => rfl
  | succ k ih => exact fun n => congrArg (· + 1) (ih (n + 1))

/-- The groups around the letter begin one after the other. -/
theorem beyond?_groups {k : Nat} : ∀ {room n : Nat}, room < k →
    (Node.ofItems n ((groups k).nodes n)).beyond? room = some (n + room) := by
  induction k with
  | zero => exact fun h => absurd h (Nat.not_lt_zero _)
  | succ k ih =>
      intro room n h
      cases room with
      | zero => rfl
      | succ room =>
          -- one group and one parenthesis fewer: the same question inside
          refine (ih (n := n + 1) (Nat.lt_of_succ_lt_succ h)).trans ?_
          rw [Nat.add_assoc, Nat.add_comm 1 room]

theorem distinct_groups (k : Nat) : (groups k).names.Nodup := by
  rw [names_groups]
  exact List.nodup_nil

/-- Before a group stand as many characters as groups that it is in. -/
theorem charOffset_groups {k : Nat} (h : n ≤ k) :
    Diagnostic.charOffset (groups k).chars n = n := by
  have split : (groups k).chars = List.replicate n '(' ++
      (List.replicate (k - n) '(' ++ 'a' :: List.replicate k ')') := by
    rw [chars_groups, ← List.append_assoc, List.replicate_append_replicate,
      Nat.add_sub_cancel' h]
  have width : Text.Utf8.length (List.replicate n '(') = n := by
    rw [Text.Utf8.length_ascii (by simp [List.mem_replicate]),
      List.length_replicate]
  have offset := charOffset_length (List.replicate n '(')
    (List.replicate (k - n) '(' ++ 'a' :: List.replicate k ')')
  rwa [← split, width, List.length_replicate] at offset

/-- Too many groups are reported at the first one that is too many. -/
theorem check_groups_of_lt {k : Nat} (h : n < k) :
    Limits.check ⟨size, n⟩ (String.ofList (groups k).chars) =
      .error (.syntaxError ⟨(Cause.tooDeep n).message, some n⟩) := by
  have deep :
      analyse n (String.ofList (groups k).chars).toList
        = .error ⟨.tooDeep n, 0 + n⟩ := by
    rw [String.toList_ofList]
    exact analyse_of_beyond ((groups k).ofPattern_chars (distinct_groups k))
      (beyond?_groups h)
  rw [Limits.check_of_fault (l := ⟨size, n⟩) deep, Diagnostic.ofFault,
    String.toList_ofList, Nat.zero_add, charOffset_groups (Nat.le_of_lt h)]

theorem check_groups_of_le {k : Nat} (h : k ≤ n) :
    Limits.check ⟨size, n⟩ (String.ofList (groups k).chars) = .ok () ∨
      Limits.check ⟨size, n⟩ (String.ofList (groups k).chars)
        = .error (.tooLarge size) := by
  obtain ⟨m, meaning⟩ := (groups k).analyse_chars (distinct_groups k) (n := n)
    ((depth_groups k 0).le.trans h)
  exact Limits.check_of_meaning (l := ⟨size, n⟩)
    (by rwa [String.toList_ofList])

end Expression

-- ========================================================== the threshold

/-- A letter in `k` pairs of parentheses, as text. -/
def nested (k : Nat) : String :=
  String.ofList (List.replicate k '(' ++ 'a' :: List.replicate k ')')

/-- Either nesting limits do not matter at all, or the depth of the tree is
the threshold between those that are reported and those that do not
matter. For `k` groups inside each other the threshold is `k`. -/
theorem check_nesting (size : Nat) :
    (∀ pattern, Xor (Unreadable size pattern) (Graded size pattern)) ∧
      ∀ k n,
        (n < k → Limits.check ⟨size, n⟩ (nested k) = .error (.syntaxError
          ⟨s!"exceed the maximum number of nested parentheses/brackets ({n})",
            some n⟩)) ∧
        (k ≤ n → Limits.check ⟨size, n⟩ (nested k) = .ok () ∨
          Limits.check ⟨size, n⟩ (nested k) = .error (.tooLarge size)) := by
  refine ⟨fun pattern => ?_, fun k n => ?_⟩
  · cases read : Node.ofPattern pattern.toList with
    | error f =>
        refine .inl ⟨unreadable_of_error read, fun ⟨x, ok, _⟩ => ?_⟩
        rw [read] at ok
        cases ok
    | ok x =>
        refine .inr ⟨graded_of_ok read, fun ⟨f, error, _⟩ => ?_⟩
        rw [read] at error
        cases error
  · rw [nested, ← Expression.chars_groups]
    exact ⟨Expression.check_groups_of_lt, Expression.check_groups_of_le⟩

/-- The third of three groups is one too many for a limit of two. -/
theorem check_nested_three :
    nested 3 = "(((a)))" ∧ 2 < 3 ∧
      Limits.check ⟨10485760, 2⟩ (nested 3) = .error (.syntaxError
        ⟨"exceed the maximum number of nested parentheses/brackets (2)",
          some 2⟩) :=
  ⟨rfl, by decide, ((check_nesting 10485760).2 3 2).1 (by decide)⟩

end PatternCheck.Pattern
