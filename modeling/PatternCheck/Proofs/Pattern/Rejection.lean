import PatternCheck.Proofs.Pattern.Located.Tree
import PatternCheck.Proofs.Text.Lines
import PatternCheck.Service.Request
import Mathlib.Data.List.Basic

/-
Rejections as they leave the checker. A pattern is rejected for its size
or for a fault, and a fault has been located in the pattern itself
(`check_error_located`): neither the compiler's own report nor a raw byte
offset ever reaches the caller.
-/

namespace PatternCheck.Pattern

open Service (Verdict)
open Text (OneLine oneLine_ofList oneLine_toString)

/-- A text with something after it is not empty if it is not by itself. -/
private theorem append_ne_empty {a : String} (b : String) (h : a ≠ "") :
    a ++ b ≠ "" := by
  intro hab
  refine h (String.toList_inj.1 ?_)
  have := congrArg String.toList hab
  rw [String.toList_append] at this
  exact (List.append_eq_nil_iff.1 this).1

/-- No cause is without words. -/
theorem Cause.message_ne_empty (cause : Cause) : cause.message ≠ "" := by
  cases cause with
  | tooDeep limit => exact append_ne_empty _ (append_ne_empty _ (by decide))
  | _ => decide

theorem Diagnostic.display_ne_empty {d : Diagnostic} (h : d.message ≠ "") :
    d.display ≠ "" := by
  unfold Diagnostic.display
  split
  · exact append_ne_empty _ (append_ne_empty _ h)
  · exact h

theorem Diagnostic.display_of_position {d : Diagnostic} {i : Nat}
    (h : d.position = some i) :
    d.display = s!"{d.message} at position {i}" := by
  rw [Diagnostic.display, h]

/-- The two ways to reject a pattern. -/
theorem check_error_cases {l : Limits} {pattern : String} {r : Rejection}
    (h : l.check pattern = .error r) :
    r = .tooLarge l.size ∨
      ∃ f, analyse l.nesting pattern.toList = .error f ∧
        r = .syntaxError (.ofFault pattern.toList f) := by
  cases ha : analyse l.nesting pattern.toList with
  | error f =>
      rw [Limits.check_of_fault ha] at h
      cases h
      exact .inr ⟨f, rfl, rfl⟩
  | ok m =>
      rw [Limits.check_of_matcher ha] at h
      split at h
      · cases h
      · cases h
        exact .inl rfl

/-- A rejection says something. -/
theorem display_ne_empty_of_check {l : Limits} {pattern : String}
    {r : Rejection} (h : l.check pattern = .error r) : r.display ≠ "" := by
  rcases check_error_cases h with rfl | ⟨f, -, rfl⟩
  · exact append_ne_empty _ (append_ne_empty _ (by decide))
  · exact Diagnostic.display_ne_empty (d := .ofFault pattern.toList f)
      f.cause.message_ne_empty

/-- No cause takes more than one line. -/
theorem Cause.message_oneLine (cause : Cause) : OneLine cause.message := by
  cases cause with
  | tooDeep limit =>
      exact ((oneLine_ofList (by decide)).append
        (oneLine_toString limit)).append (oneLine_ofList (by decide))
  | boundaryUnclosed | boundaryUnknown | boundaryOrCountUnclosed =>
      exact (oneLine_ofList (by decide)).append (oneLine_ofList (by decide))
  | _ => exact oneLine_ofList (by decide)

theorem Diagnostic.display_oneLine {d : Diagnostic} (h : OneLine d.message) :
    OneLine d.display := by
  unfold Diagnostic.display
  split
  · exact (h.append (oneLine_ofList (by decide))).append (oneLine_toString _)
  · exact h

/-- Whatever the pattern is, and however many lines it has, a rejection takes
one: nothing of the pattern is in it. -/
theorem display_oneLine_of_check {l : Limits} {pattern : String}
    {r : Rejection} (h : l.check pattern = .error r) : OneLine r.display := by
  rcases check_error_cases h with rfl | ⟨f, -, rfl⟩
  · exact ((oneLine_ofList (by decide)).append (oneLine_toString _)).append
      (oneLine_ofList (by decide))
  · exact Diagnostic.display_oneLine (d := .ofFault pattern.toList f)
      f.cause.message_oneLine

/-- Every rejection that is not for size names a place of the pattern, and
locating the fault again finds the same, whatever the report says. The
place comes from a byte offset at which a character begins or the pattern
ends. -/
theorem check_error_located {l : Limits} {pattern : String} {r : Rejection}
    (h : l.check pattern = .error r) :
    r = .tooLarge l.size ∨
      ∃ d i, r = .syntaxError d ∧ d.message ≠ "" ∧ d.position = some i ∧
        i ≤ pattern.length ∧
          (∀ report, d = Diagnostic.locate pattern l.nesting report) ∧
        (∃ f, analyse l.nesting pattern.toList = .error f ∧
          Diagnostic.charsBefore? pattern.toList f.pos = some i) ∧
        (Verdict.ofPattern l pattern).1.error
          = some s!"{d.message} at position {i}" := by
  rcases check_error_cases h with hr | ⟨f, hf, hr⟩
  · exact .inl hr
  · obtain ⟨place, -⟩ := (analyse_located l.nesting pattern.toList).of_error hf
    obtain ⟨i, hi, hn⟩ := place.charsBefore?
    have position :
        (Diagnostic.ofFault pattern.toList f).position = some i := by
      rw [Diagnostic.ofFault, Diagnostic.charOffset, hn, Option.getD_some]
    refine .inr ⟨_, i, hr, f.cause.message_ne_empty, position, ?_, ?_,
      ⟨f, hf, hn⟩, ?_⟩
    · rwa [String.length_toList] at hi
    · intro report
      exact (Diagnostic.locate_of_fault hf report).symm
    · have text :
          r.display = (Diagnostic.ofFault pattern.toList f).display := by
        rw [hr]; rfl
      rw [Diagnostic.display_of_position position] at text
      simp only [Verdict.ofPattern, h, text]

/-- A group that is never closed, after a character of two bytes. -/
theorem unclosed_group_located :
    Limits.check {} "é(" = .error (.syntaxError ⟨"unclosed group", some 1⟩) ∧
      ∃ d i, d.position = some i ∧ i ≤ "é(".length ∧
        d = Diagnostic.locate "é(" 250 "error: odd" := by
  have h :
      Limits.check {} "é("
        = .error (.syntaxError ⟨"unclosed group", some 1⟩) := by
    decide +kernel
  refine ⟨h, ?_⟩
  rcases check_error_located h with hr | ⟨d, i, -, -, hp, hi, hl, -⟩
  · simp at hr
  · exact ⟨d, i, hp, hi, hl "error: odd"⟩

end PatternCheck.Pattern
