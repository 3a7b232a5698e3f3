import PatternCheck.Pattern.Check
import PatternCheck.Proofs.Pattern.Depth

/-
What a size limit decides. The size of the compiled form is asked for
last, and does not depend on the limit: under all size limits a pattern is
rejected with one diagnostic, or there is a size that it needs
(`check_sizes`). So a larger limit accepts no less (`check_size_gate`).
-/

namespace PatternCheck.Pattern

variable {n : Nat} {pattern : String}

/-- The least size limit that a matcher fits. -/
def Matcher.neededBytes (m : Matcher) : Nat :=
  if m.isTextSearch then 0 else m.compiledBytes

theorem Matcher.fits_iff (m : Matcher) (size : Nat) :
    m.fits size = true ↔ m.neededBytes ≤ size := by
  by_cases search : m.isTextSearch = true <;> simp [fits, neededBytes, search]

/-- With a meaning, all verdicts on a pattern come from the size that its
matcher needs. -/
theorem check_sizes_of_matcher {m : Matcher}
    (h : analyse n pattern.toList = .ok m) (u : Nat) :
    Limits.check ⟨u, n⟩ pattern =
      if m.neededBytes ≤ u then .ok () else .error (.tooLarge u) := by
  rw [Limits.check_of_matcher (l := ⟨u, n⟩) h]
  simp only [m.fits_iff u]

/-- The verdicts on a pattern under all size limits. -/
theorem check_sizes (n : Nat) (pattern : String) :
    (∃ d, ∀ u, Limits.check ⟨u, n⟩ pattern = .error (.syntaxError d)) ∨
      ∃ need, ∀ u, Limits.check ⟨u, n⟩ pattern =
        if need ≤ u then .ok () else .error (.tooLarge u) := by
  cases h : analyse n pattern.toList with
  | error f => exact .inl ⟨_, fun u => Limits.check_of_fault (l := ⟨u, n⟩) h⟩
  | ok m => exact .inr ⟨m.neededBytes, check_sizes_of_matcher h⟩

/-- What is too large is in order otherwise: it can be read, its nesting is
within the limit, and it has a meaning. -/
theorem in_order_of_tooLarge {u k : Nat}
    (h : Limits.check ⟨u, n⟩ pattern = .error (.tooLarge k)) :
    ∃ x r, Node.ofPattern pattern.toList = .ok x ∧ x.depth ≤ n
      ∧ x.matcher {} = .ok r := by
  have unfaulted (f : Fault) : analyse n pattern.toList ≠ .error f := by
    intro fault
    rw [Limits.check_of_fault (l := ⟨u, n⟩) fault] at h
    cases h
  cases read : Node.ofPattern pattern.toList with
  | error f => exact absurd (analyse_of_unreadable read) (unfaulted f)
  | ok x =>
      cases beyond : x.beyond? n with
      | some pos => exact absurd (analyse_of_beyond read beyond) (unfaulted _)
      | none =>
          cases meaning : x.matcher {} with
          | error f =>
              have fault := analyse_of_within read beyond
              rw [meaning] at fault
              exact absurd fault (unfaulted f)
          | ok r =>
              exact ⟨x, r, rfl, (Node.beyond?_eq_none_iff n x).1 beyond,
                meaning⟩

/-- A size limit stands behind everything else. Diagnostics are the same
under all size limits, a larger one accepts whatever a smaller one does,
and what is too large is reported with the limit itself and is in order
otherwise. -/
theorem check_size_gate (pattern : String) (n : Nat) {s t : Nat} (h : s ≤ t) :
    (∀ d, Limits.check ⟨s, n⟩ pattern = .error (.syntaxError d) ↔
      Limits.check ⟨t, n⟩ pattern = .error (.syntaxError d)) ∧
    (Limits.check ⟨s, n⟩ pattern = .ok () →
      Limits.check ⟨t, n⟩ pattern = .ok ()) ∧
    ∀ u k, Limits.check ⟨u, n⟩ pattern = .error (.tooLarge k) →
      k = u ∧ ∃ x r, Node.ofPattern pattern.toList = .ok x ∧ x.depth ≤ n ∧
        x.matcher {} = .ok r := by
  rcases check_sizes n pattern with ⟨d, fault⟩ | ⟨need, gate⟩
  · simp [fault]
  · refine ⟨fun d => ?_, fun accepted => ?_,
      fun u k large => ⟨?_, in_order_of_tooLarge large⟩⟩
    · -- whatever has a size that it needs has no fault under any limit
      have no (u : Nat) :
          Limits.check ⟨u, n⟩ pattern ≠ .error (.syntaxError d) := by
        rw [gate]
        split <;> simp
      exact iff_of_false (no s) (no t)
    · rw [gate] at accepted ⊢
      split at accepted
      · next fit => rw [if_pos (Nat.le_trans fit h)]
      · cases accepted
    · rw [gate] at large
      split at large
      · cases large
      · exact (Rejection.tooLarge.inj (Except.error.inj large)).symm

/-- Two repeated classes do not fit three hundred bytes; so no larger limit
finds fault with anything else. -/
theorem check_size_gate_digits :
    Limits.check ⟨300, 250⟩ "[0-9]+[a-z]*" = .error (.tooLarge 300) ∧
      300 ≤ 10485760 ∧
        (∀ d, Limits.check ⟨10485760, 250⟩ "[0-9]+[a-z]*"
          ≠ .error (.syntaxError d)) ∧
      ∃ x r, Node.ofPattern "[0-9]+[a-z]*".toList = .ok x ∧ x.depth ≤ 250 ∧
        x.matcher {} = .ok r := by
  have large :
      Limits.check ⟨300, 250⟩ "[0-9]+[a-z]*" = .error (.tooLarge 300) := by
    decide +kernel
  have ordered : 300 ≤ 10485760 := by decide
  obtain ⟨same, -, gate⟩ := check_size_gate "[0-9]+[a-z]*" 250 ordered
  refine ⟨large, ordered, fun d fault => ?_, (gate 300 300 large).2⟩
  rw [← same d, large] at fault
  cases fault

end PatternCheck.Pattern
