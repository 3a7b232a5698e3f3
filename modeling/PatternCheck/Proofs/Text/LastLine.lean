import PatternCheck.Proofs.Text.Blank
import PatternCheck.Proofs.Text.Lines

/-
The last line of a text that is not blank. It can be found line by line: of
all lines, each trimmed, those that are not blank are kept, and the last of
them is taken (`shownLines`). Or it can be found by its characters alone: it
stands between the last line feed before it and blanks that go on to the
end of the text (`LastLine`). Both find the same
(`getLast?_shownLines`, `exists_lastLine`).

The lines of two texts with a line feed between them are the lines of both
(`shownLines_append`), and blanks at the end of a text are no lines
(`shownLines_append_blank`); everything else comes from these two.
-/

namespace PatternCheck.Text

variable {cs core more : List Char} {c : Char}

-- ========================================================= line by line

/-- What there is to see of some lines: those that are not blank, trimmed. -/
def shown (ls : List (List Char)) : List (List Char) :=
  (ls.map trim).filter (!·.isEmpty)

/-- The lines of a text that are not blank, trimmed. -/
def shownLines (cs : List Char) : List (List Char) := shown (lines cs)

theorem shown_cons (l : List Char) (ls : List (List Char)) :
    shown (l :: ls) = shown [l] ++ shown ls := by
  rw [shown, List.map_cons, ← List.singleton_append, List.filter_append]
  rfl

/-- Only what is left of a line after trimming counts. -/
theorem shown_congr {a b : List Char} (h : trim a = trim b) :
    shown [a] = shown [b] := by
  rw [shown, List.map_singleton, h, shown, List.map_singleton]

theorem shown_eq_nil_iff {ls : List (List Char)} :
    shown ls = [] ↔ ∀ l ∈ ls, trim l = [] := by
  simp [shown]

/-- The last line that there is to see is one of all lines. -/
theorem eq_append_of_getLast?_shown {ls : List (List Char)}
    (h : (shown ls).getLast? = some core) : ∃ before line after,
      ls = before ++ line :: after ∧ trim line = core
        ∧ ∀ l ∈ after, trim l = [] := by
  induction ls with
  | nil => cases h
  | cons l ls ih =>
      rw [shown_cons, List.getLast?_append] at h
      cases last : (shown ls).getLast? with
      | some found =>
          rw [last] at h
          obtain ⟨before, line, after, rfl, rest⟩ := ih (last.trans h)
          exact ⟨l :: before, line, after, rfl, rest⟩
      | none =>
          rw [last, Option.none_or] at h
          refine ⟨[], l, ls, rfl, ?_,
            shown_eq_nil_iff.1 (List.getLast?_eq_none_iff.1 last)⟩
          by_cases none : trim l = [] <;> simp [shown, none] at h
          exact h

theorem isBlank_feed : isBlank '\n' = true := by decide

theorem isBlank_return : isBlank '\r' = true := by decide

/-- The carriage return at the end of a line is a blank like any other. -/
theorem trim_dropReturn (line : List Char) :
    trim (lines.dropReturn line).reverse = trim line.reverse := by
  unfold lines.dropReturn
  split
  · next line =>
      rw [List.reverse_cons, trim_append_blank]
      exact List.forall_mem_singleton.2 isBlank_return
  · rfl

/-- A text ends its last line just as a line feed does. -/
theorem shown_linesGo_nil (line : List Char) :
    shown (lines.go line []) = shown [line.reverse] := by
  cases line with
  | nil => rfl
  | cons c line => rfl

theorem shown_linesGo_feed (line rest : List Char) :
    shown (lines.go line ('\n' :: rest))
      = shown [line.reverse] ++ shownLines rest := by
  rw [lines.go, if_pos rfl, shown_cons, shown_congr (trim_dropReturn line)]
  rfl

/-- A text that goes on changes nothing about the lines before, if all that it
does to the line begun so far is to end it. -/
theorem shown_linesGo_append {tail : List Char} {ls : List (List Char)}
    (h : ∀ line, shown (lines.go line tail) = shown [line.reverse] ++ ls)
    (cs : List Char) :
    ∀ line, shown (lines.go line (cs ++ tail))
      = shown (lines.go line cs) ++ ls := by
  -- the line begun so far grows with each character, so it stays general
  induction cs with
  | nil =>
      intro line
      rw [List.nil_append, h, shown_linesGo_nil]
  | cons c cs ih =>
      intro line
      rw [List.cons_append]
      by_cases hc : c = '\n'
      · rw [hc, shown_linesGo_feed, shown_linesGo_feed, shownLines, lines,
          ih [], List.append_assoc]
        rfl
      · rw [linesGo_cons hc, linesGo_cons hc, ih]

theorem shown_linesGo_blank (blank : isBlank c = true) (line : List Char) :
    shown (lines.go line [c]) = shown [line.reverse] ++ [] := by
  by_cases hc : c = '\n'
  · rw [hc, shown_linesGo_feed]
    rfl
  · have trimmed : trim (line.reverse ++ [c]) = trim line.reverse :=
      trim_append_blank (List.forall_mem_singleton.2 blank) _
    rw [linesGo_cons hc, shown_linesGo_nil, List.reverse_cons,
      shown_congr trimmed, List.append_nil]

/-- The lines of two texts with a line feed between them. -/
theorem shownLines_append (cs more : List Char) :
    shownLines (cs ++ '\n' :: more) = shownLines cs ++ shownLines more :=
  shown_linesGo_append (fun line => shown_linesGo_feed line more) cs []

/-- Blanks at the end of a text are no lines, and belong to none. -/
theorem shownLines_append_blank (h : Blank more) (cs : List Char) :
    shownLines (cs ++ more) = shownLines cs := by
  induction more generalizing cs with
  | nil => rw [List.append_nil]
  | cons c more ih =>
      obtain ⟨first, rest⟩ := List.forall_mem_cons.1 h
      have same := shown_linesGo_append (shown_linesGo_blank first) cs []
      rw [List.append_nil] at same
      rw [List.append_cons, ih rest]
      exact same

/-- A text without a line feed is a single line. -/
theorem shownLines_of_notMem (h : '\n' ∉ cs) : shownLines cs = shown [cs] := by
  have ended : shownLines (cs ++ ['\n']) = shown [cs] := by
    rw [shownLines, lines, linesGo_append h, List.append_nil]
    exact (shown_congr (trim_dropReturn _)).trans
      (by rw [List.reverse_reverse])
  rw [← ended, shownLines_append]
  exact (List.append_nil _).symm

-- =================================================== character by character

/-- A text in four parts, of which the third is its last line that is not
blank, without the blanks around it. The first part is made up of the lines
before; in this line only blanks stand before it, and after it there are only
blanks in all of the text. -/
structure LastLine.Parts (earlier indent core after : List Char) : Prop where
  begins : earlier = [] ∨ ∃ ls, earlier = ls ++ ['\n']
  blankIndent : Blank indent
  oneLine : '\n' ∉ indent ++ core
  trimmed : Trimmed core
  blankAfter : Blank after

/-- The last line of a text that is not blank, by the characters of the
text. -/
def LastLine (cs core : List Char) : Prop :=
  ∃ earlier indent after, cs = earlier ++ indent ++ core ++ after ∧
    LastLine.Parts earlier indent core after

namespace LastLine

theorem trimmed (h : LastLine cs core) : Trimmed core := by
  obtain ⟨_, _, _, -, parts⟩ := h
  exact parts.trimmed

theorem notMem_feed (h : LastLine cs core) : '\n' ∉ core := by
  obtain ⟨_, _, _, -, parts⟩ := h
  exact fun feed => parts.oneLine (List.mem_append_right _ feed)

/-- Blanks after a text change nothing. -/
theorem append_blank (h : LastLine cs core) (blank : Blank more) :
    LastLine (cs ++ more) core := by
  obtain ⟨earlier, indent, after, rfl, parts⟩ := h
  refine ⟨earlier, indent, after ++ more, List.append_assoc _ _ _, ?_⟩
  exact { parts with blankAfter :=
      List.forall_mem_append.2 ⟨parts.blankAfter, blank⟩ }

/-- Lines before a text change nothing. -/
theorem append_front (h : LastLine cs core) (ls : List Char) :
    LastLine (ls ++ '\n' :: cs) core := by
  obtain ⟨earlier, indent, after, rfl, parts⟩ := h
  refine ⟨ls ++ '\n' :: earlier, indent, after, by simp,
    { parts with begins := .inr ?_ }⟩
  rcases parts.begins with rfl | ⟨ls', rfl⟩
  · exact ⟨ls, rfl⟩
  · exact ⟨ls ++ '\n' :: ls', by simp⟩

/-- A character more at the start of a text. A line feed ends a line before;
so does whatever stands at the start of such a line. Otherwise the character
is in the line itself, where it is a blank or comes to be the first that is
not. -/
theorem cons (h : LastLine cs core) (c : Char) :
    ∃ core, LastLine (c :: cs) core := by
  by_cases feed : c = '\n'
  · exact ⟨core, feed ▸ h.append_front []⟩
  obtain ⟨earlier, indent, after, rfl, parts⟩ := h
  rcases parts.begins with rfl | ⟨ls, rfl⟩
  · have whole : '\n' ∉ c :: (indent ++ core) := by
      rw [List.mem_cons, not_or]
      exact ⟨fun h => feed h.symm, parts.oneLine⟩
    cases blank : isBlank c with
    | true =>
        refine ⟨core, [], c :: indent, after, rfl,
          { parts with oneLine := whole, blankIndent := ?_ }⟩
        exact List.forall_mem_cons.2 ⟨blank, parts.blankIndent⟩
    | false =>
        refine ⟨c :: (indent ++ core), [], [], after, by simp, ?_⟩
        exact { parts with
          blankIndent := List.forall_mem_nil _
          oneLine := whole
          trimmed := parts.trimmed.cons_append blank indent }
  · exact ⟨core, c :: ls ++ ['\n'], indent, after, by simp,
      { parts with begins := .inr ⟨c :: ls, rfl⟩ }⟩

end LastLine

/-- A text that is not blank has such a line. -/
theorem exists_lastLine (h : ¬ Blank cs) : ∃ core, LastLine cs core := by
  -- from the end of the text: the last character that is not blank comes first
  induction cs with
  | nil => exact absurd (List.forall_mem_nil _) h
  | cons c cs ih =>
      by_cases blank : Blank cs
      · have first : isBlank c = false := by
          rw [← Bool.not_eq_true]
          exact fun first => h (List.forall_mem_cons.2 ⟨first, blank⟩)
        have oneLine : '\n' ∉ [] ++ [c] := by
          rw [List.nil_append, List.mem_singleton]
          rintro rfl
          rw [isBlank_feed] at first
          cases first
        exact ⟨[c], [], [], cs, rfl, .inl rfl, List.forall_mem_nil _, oneLine,
          ⟨⟨c, rfl, first⟩, ⟨c, rfl, first⟩⟩, blank⟩
      · obtain ⟨core, later⟩ := ih blank
        exact later.cons c

/-- What is found by its characters is found line by line. -/
theorem getLast?_shownLines (h : LastLine cs core) :
    (shownLines cs).getLast? = some core := by
  obtain ⟨earlier, indent, after, rfl, parts⟩ := h
  have line : shownLines (indent ++ core) = [core] := by
    have kept : trim (indent ++ core) = core := by
      rw [trim_blank_append parts.blankIndent, parts.trimmed.trim_eq]
    rw [shownLines_of_notMem parts.oneLine, shown, List.map_singleton, kept]
    simp [parts.trimmed.ne_nil]
  rw [shownLines_append_blank parts.blankAfter]
  rcases parts.begins with rfl | ⟨ls, rfl⟩
  · rw [List.nil_append, line]
    rfl
  · rw [List.append_assoc, List.append_assoc, List.singleton_append,
      shownLines_append, line, List.getLast?_concat]

/-- A text is blank if all its lines are. -/
theorem blank_iff_lines : Blank cs ↔ ∀ l ∈ lines cs, trim l = [] := by
  rw [← shown_eq_nil_iff, ← shownLines]
  constructor
  · intro blank
    exact shownLines_append_blank blank []
  · intro none
    by_cases blank : Blank cs
    · exact blank
    · obtain ⟨core, last⟩ := exists_lastLine blank
      have found := getLast?_shownLines last
      rw [none] at found
      cases found

/-- The last line that is not blank, among all lines. -/
theorem LastLine.lines_eq (h : LastLine cs core) : ∃ before line after,
    lines cs = before ++ line :: after ∧ trim line = core
      ∧ ∀ l ∈ after, trim l = [] :=
  eq_append_of_getLast?_shown (getLast?_shownLines h)

end PatternCheck.Text
