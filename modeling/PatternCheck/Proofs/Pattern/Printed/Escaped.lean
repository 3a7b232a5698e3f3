import PatternCheck.Proofs.Pattern.Place
import PatternCheck.Proofs.Pattern.Printed.Accepted

/-
Escaped text as a whole pattern. It is read as its characters one beside
the other, which is one level of nesting for two characters or more and
none for fewer (`depth_literals`); and nothing is ever wrong with what a
character means. So an escaped text is rejected for its size at most,
unless nothing may nest at all (`check_escaped`).
-/

namespace PatternCheck.Pattern

open State (literals)

/-- No character is a level of its own. -/
theorem depths_literals (cs : List Char) :
    ∀ n, Node.depths (literals n cs) = 0 := by
  induction cs with
  | nil => exact fun _ => rfl
  | cons c cs ih =>
      intro n
      rw [literals, Node.depths, ih]
      rfl

/-- Two characters or more are one level, fewer are none. -/
theorem depth_literals (cs : List Char) (n m : Nat) :
    (Node.ofItems n (literals m cs)).depth
      = if cs.length < 2 then 0 else 1 := by
  match cs with
  | [] => rfl
  | [c] => rfl
  | c :: d :: cs =>
      have level : (Node.ofItems n (literals m (c :: d :: cs))).depth =
          Node.depths (literals m (c :: d :: cs)) + 1 := rfl
      rw [level, depths_literals, if_neg (by simp)]

/-- The text in which every character of another one stands for itself. -/
def escaped (text : String) : String := String.ofList (escape text.toList)

/-- Where two characters are too deep, they are so from the first one on. -/
theorem beyond?_literals {cs : List Char} (h : 2 ≤ cs.length) :
    (Node.ofItems 0 (literals 0 cs)).beyond? 0 = some 0 := by
  match cs, h with
  | c :: d :: cs, _ => rfl

/-- What is escaped is read as it stands. -/
theorem ofPattern_escaped (text : String) :
    Node.ofPattern (escaped text).toList
      = .ok (.ofItems 0 (literals 0 text.toList)) := by
  rw [escaped, String.toList_ofList]
  exact (Expression.text text.toList).ofPattern_chars List.nodup_nil

/-- Nothing is wrong with an escaped text that does not nest too deep. -/
theorem check_escaped_of_depth {l : Limits} {text : String}
    (h : text.length < 2 ∨ 1 ≤ l.nesting) :
    l.check (escaped text) = .ok ()
      ∨ l.check (escaped text) = .error (.tooLarge l.size) := by
  have deep :
      (Node.ofItems 0 ((Expression.text text.toList).nodes 0)).depth
        ≤ l.nesting := by
    rw [Expression.nodes, depth_literals, String.length_toList]
    split <;> omega
  obtain ⟨m, meaning⟩ :=
    (Expression.text text.toList).analyse_chars List.nodup_nil deep
  exact Limits.check_of_meaning (by rwa [escaped, String.toList_ofList])

/-- Where nothing may nest, two characters are too many, and the first of them
is where they begin. -/
theorem check_escaped_flat {l : Limits} {text : String} (none : l.nesting = 0)
    (h : 2 ≤ text.length) :
    l.check (escaped text) =
      .error (.syntaxError ⟨(Cause.tooDeep 0).message, some 0⟩) := by
  rw [← String.length_toList] at h
  have deep :
      analyse l.nesting (escaped text).toList = .error ⟨.tooDeep 0, 0⟩ := by
    rw [none]
    exact analyse_of_beyond (ofPattern_escaped text) (beyond?_literals h)
  rw [Limits.check_of_fault deep, Diagnostic.ofFault, charOffset_zero]

/-- An escaped text is rejected for its size at most, if something may nest
at all. If nothing may, this holds of less than two characters, and more
are rejected for their nesting, at the first of them. -/
theorem check_escaped (l : Limits) (text : String) :
    (1 ≤ l.nesting →
        l.check (escaped text) = .ok () ∨
          l.check (escaped text) = .error (.tooLarge l.size)) ∧
      (l.nesting = 0 →
        ((∃ d, l.check (escaped text) = .error (.syntaxError d)) ↔
          2 ≤ text.length) ∧
        (text.length < 2 →
          l.check (escaped text) = .ok () ∨
            l.check (escaped text) = .error (.tooLarge l.size)) ∧
        (2 ≤ text.length → l.check (escaped text) = .error (.syntaxError
          ⟨"exceed the maximum number of nested parentheses/brackets (0)",
            some 0⟩))) := by
  refine ⟨fun h => check_escaped_of_depth (.inr h),
    fun none => ⟨⟨?_, ?_⟩, ?_, ?_⟩⟩
  · rintro ⟨d, hd⟩
    by_contra h
    rcases check_escaped_of_depth (l := l)
      (.inl (Nat.lt_of_not_le h)) with ok | large
    · rw [ok] at hd
      cases hd
    · rw [large] at hd
      cases hd
  · exact fun h => ⟨_, check_escaped_flat none h⟩
  · exact fun h => check_escaped_of_depth (.inl h)
  · exact check_escaped_flat none

/-- Brackets, dashes and line feeds in a text mean nothing once they are
escaped, and it takes the one level of any text that has two characters. -/
theorem check_escaped_brackets :
    escaped "[-é\n" = "\\[\\-é\n" ∧
      (Limits.check ⟨10485760, 1⟩ "\\[\\-é\n" = .ok () ∨
        Limits.check ⟨10485760, 1⟩ "\\[\\-é\n" = .error (.tooLarge 10485760)) ∧
      Limits.check ⟨10485760, 0⟩ "\\[\\-é\n" = .error (.syntaxError
        ⟨"exceed the maximum number of nested parentheses/brackets (0)",
          some 0⟩) := by
  have text : escaped "[-é\n" = "\\[\\-é\n" := by decide
  have nested := (check_escaped ⟨10485760, 1⟩ "[-é\n").1 (Nat.le_refl 1)
  have flat := ((check_escaped ⟨10485760, 0⟩ "[-é\n").2 rfl).2.2 (by decide)
  rw [text] at nested flat
  exact ⟨text, nested, flat⟩

end PatternCheck.Pattern
