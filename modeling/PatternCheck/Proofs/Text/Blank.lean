import Mathlib.Data.List.TakeWhile
import PatternCheck.Text.Blank

/-
Trimming. Blanks at the ends of a text are taken away
(`trim_blank_append`, `trim_append_blank`), and a text without any there
stays as it is (`Trimmed.trim_eq`).
-/

namespace PatternCheck.Text

variable {cs before after : List Char}

/-- There are only blanks in a text. -/
def Blank (cs : List Char) : Prop := ∀ c ∈ cs, isBlank c = true

instance (cs : List Char) : Decidable (Blank cs) :=
  decidable_of_iff (cs.all isBlank = true) List.all_eq_true

/-- A text begins and ends with characters that are not blank. -/
structure Trimmed (cs : List Char) : Prop where
  begins : ∃ c ∈ cs.head?, isBlank c = false
  ends : ∃ c ∈ cs.getLast?, isBlank c = false

theorem Blank.reverse (h : Blank cs) : Blank cs.reverse :=
  fun c hc => h c (List.mem_reverse.1 hc)

/-- Where no blank comes first, none is taken off. -/
theorem dropWhile_isBlank_eq_self (h : ∃ c ∈ cs.head?, isBlank c = false) :
    cs.dropWhile isBlank = cs := by
  obtain ⟨c, hc, shown⟩ := h
  obtain ⟨rest, rfl⟩ := List.head?_eq_some_iff.1 hc
  exact List.dropWhile_cons_of_neg (ne_true_of_eq_false shown)

/-- Blanks before a text are trimmed. -/
theorem trim_blank_append (h : Blank before) (cs : List Char) :
    trim (before ++ cs) = trim cs := by
  rw [trim, List.dropWhile_append_of_pos h, trim]

/-- Blanks after a text are trimmed. -/
theorem trim_append_blank (h : Blank after) (cs : List Char) :
    trim (cs ++ after) = trim cs := by
  rw [trim, List.dropWhile_append]
  split
  · next none =>
      rw [List.dropWhile_eq_nil_iff.2 h, trim, List.isEmpty_iff.1 none]
  · rw [List.reverse_append, List.dropWhile_append_of_pos h.reverse, trim]

/-- A text without blanks at its ends stays as it is. -/
theorem Trimmed.trim_eq (h : Trimmed cs) : trim cs = cs := by
  have ends : ∃ c ∈ cs.reverse.head?, isBlank c = false := by
    rw [List.head?_reverse]
    exact h.ends
  rw [trim, dropWhile_isBlank_eq_self h.begins, dropWhile_isBlank_eq_self ends,
    List.reverse_reverse]

/-- A text without blanks is not trimmed. -/
theorem trim_eq_self (h : ∀ c ∈ cs, isBlank c = false) : trim cs = cs := by
  cases cs with
  | nil => rfl
  | cons c cs =>
      have last := List.getLast?_eq_some_getLast (List.cons_ne_nil c cs)
      have trimmed : Trimmed (c :: cs) :=
        ⟨⟨c, rfl, h c List.mem_cons_self⟩, ⟨_, last, h _ (List.getLast_mem _)⟩⟩
      exact trimmed.trim_eq

/-- One more character before a text, with anything in between. -/
theorem Trimmed.cons_append (h : Trimmed cs) {c : Char}
    (shown : isBlank c = false) (middle : List Char) :
    Trimmed (c :: (middle ++ cs)) := by
  obtain ⟨d, hd, ends⟩ := h.ends
  have last : (c :: (middle ++ cs)).getLast? = some d := by
    rw [← List.cons_append, List.getLast?_append, Option.mem_def.1 hd,
      Option.some_or]
  exact ⟨⟨c, rfl, shown⟩, ⟨d, last, ends⟩⟩

theorem Trimmed.ne_nil (h : Trimmed cs) : cs ≠ [] := by
  rintro rfl
  obtain ⟨c, hc, -⟩ := h.begins
  cases hc

end PatternCheck.Text
