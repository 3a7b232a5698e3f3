import PatternCheck.Text.Blank
import PatternCheck.Text.Utf8

/-
Texts that take one line. Whoever writes such a text and ends it with a
line feed has written one line, so the lines of a file can be counted and
told apart again (`lines_flatMap`). A text put together from parts takes
one line if each of its parts does.
-/

namespace PatternCheck.Text

/-- There is no line feed in a text. -/
def OneLine (s : String) : Prop := '\n' ∉ s.toList

/-- A text is one line and its end. -/
def IsLine (s : String) : Prop := ∃ line, s = line ++ "\n" ∧ OneLine line

variable {a b : String}

/-- Texts on one line may stand side by side. -/
theorem OneLine.append (ha : OneLine a) (hb : OneLine b) :
    OneLine (a ++ b) := by
  intro h
  rw [String.toList_append, List.mem_append] at h
  exact h.elim ha hb

/-- A text by its characters; they are also those of a literal. -/
theorem oneLine_ofList {cs : List Char} (h : '\n' ∉ cs) :
    OneLine (String.ofList cs) := by
  rw [OneLine, String.toList_ofList]
  exact h

theorem oneLine_join {parts : List String} (h : ∀ s ∈ parts, OneLine s) :
    OneLine (String.join parts) := by
  rw [OneLine, String.toList_join, List.mem_flatMap]
  rintro ⟨s, hs, hc⟩
  exact h s hs hc

/-- A number is written in digits. -/
theorem oneLine_toString (n : Nat) : OneLine (toString n) := by
  intro h
  have digit := Nat.isDigit_of_mem_toDigits (b := 10) (by decide) (by decide)
    (Nat.toList_repr ▸ h)
  exact absurd digit (by decide)

/-- Only one of two texts is shown, and both take one line. -/
theorem oneLine_ite {p : Prop} [Decidable p] (ha : OneLine a)
    (hb : OneLine b) : OneLine (if p then a else b) := by
  split
  · exact ha
  · exact hb

-- ======================================================== taking lines apart

/-- Whether characters make up a line as it is read back: no line feed is in
them, and no carriage return is taken from their end. -/
def StaysLine (cs : List Char) : Prop := '\n' ∉ cs ∧ cs.getLast? ≠ some '\r'

theorem linesGo_cons {c : Char} (h : c ≠ '\n') (line rest : List Char) :
    lines.go line (c :: rest) = lines.go (c :: line) rest := by
  rw [lines.go, if_neg h]

/-- A line ends at the first line feed. -/
theorem linesGo_append {cs : List Char} (h : '\n' ∉ cs) (rest : List Char) :
    ∀ line : List Char,
    lines.go line (cs ++ '\n' :: rest)
      = (lines.dropReturn (cs.reverse ++ line)).reverse :: lines rest := by
  induction cs with
  | nil =>
      intro line
      rw [List.nil_append, lines.go, if_pos rfl]
      rfl
  | cons c cs ih =>
      intro line
      have hc : c ≠ '\n' := fun hc => h (hc ▸ List.mem_cons_self)
      have hcs : '\n' ∉ cs := fun hcs => h (List.mem_cons_of_mem c hcs)
      rw [List.cons_append, linesGo_cons hc, ih hcs, List.reverse_cons,
        List.append_assoc]
      rfl

/-- The first line of a text is what stands before the first line feed. -/
theorem lines_append {cs : List Char} (h : StaysLine cs) (rest : List Char) :
    lines (cs ++ '\n' :: rest) = cs :: lines rest := by
  have same : lines.dropReturn cs.reverse = cs.reverse := by
    unfold lines.dropReturn
    split
    · next line hline =>
        have hlast := h.2
        rw [← List.head?_reverse, hline] at hlast
        exact absurd rfl hlast
    · rfl
  rw [lines, linesGo_append h.1, List.append_nil, same, List.reverse_reverse]

/-- What was written line by line is read line by line. -/
theorem lines_flatMap {ls : List (List Char)} (h : ∀ l ∈ ls, StaysLine l) :
    lines (ls.flatMap (· ++ ['\n'])) = ls := by
  induction ls with
  | nil => rfl
  | cons l ls ih =>
      obtain ⟨hl, hls⟩ := List.forall_mem_cons.1 h
      rw [List.flatMap_cons, List.append_assoc, List.singleton_append,
        lines_append hl, ih hls]

end PatternCheck.Text
