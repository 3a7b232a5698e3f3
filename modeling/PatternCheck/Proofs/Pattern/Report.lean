import PatternCheck.Proofs.Pattern.Printed.Accepted
import PatternCheck.Proofs.Text.LastLine

/-
The summary of a report, which is all there is to say about a pattern that
turns out to be in order. It is the last line of the report that is not
blank, without the mark that reports put before it (`Diagnostic.Unmarked`),
so neither other lines before it nor blank ones after it are seen. A report
of blank lines has no such line and stays as it is (`locate_of_matcher`).
-/

namespace PatternCheck.Pattern

open Text (Blank LastLine OneLine Trimmed)

namespace Diagnostic

variable {cs message : List Char} {report : String}

-- ============================================================= the mark

/-- A text without the mark of a report, of which it has one at most. -/
def Unmarked (cs message : List Char) : Prop :=
  cs = "error: ".toList ++ message ∨ ¬ "error: ".toList <+: cs ∧ message = cs

theorem withoutPrefix_eq_self (h : ¬ reportPrefix <+: cs) :
    withoutPrefix cs = cs := by
  have missing : ¬ reportPrefix.isPrefixOf cs = true :=
    fun found => h <| List.isPrefixOf_iff_prefix.1 found
  rw [withoutPrefix, if_neg missing]

theorem unmarked_withoutPrefix (cs : List Char) :
    Unmarked cs (withoutPrefix cs) := by
  by_cases marked : reportPrefix <+: cs
  · obtain ⟨rest, rfl⟩ := marked
    have found : reportPrefix.isPrefixOf (reportPrefix ++ rest) = true :=
      List.isPrefixOf_iff_prefix.2 (List.prefix_append _ _)
    rw [withoutPrefix, if_pos found, List.drop_left]
    exact .inl rfl
  · exact .inr ⟨marked, withoutPrefix_eq_self marked⟩

/-- The mark alone is not a line: it ends in a blank. -/
theorem Unmarked.ne_nil (h : Unmarked cs message) (trimmed : Trimmed cs) :
    message ≠ [] := by
  rintro rfl
  rcases h with rfl | ⟨-, rfl⟩
  · obtain ⟨c, hc, shown⟩ := trimmed.ends
    obtain rfl : ' ' = c := Option.some.inj hc
    have blank : Text.isBlank ' ' = true := by decide
    rw [blank] at shown
    cases shown
  · exact trimmed.ne_nil rfl

theorem Unmarked.subset (h : Unmarked cs message) : message ⊆ cs := by
  rcases h with rfl | ⟨-, rfl⟩
  · exact List.subset_append_right _ _
  · exact List.Subset.refl _

-- ============================================================ summaries

theorem summary_of_lastLine {core : List Char}
    (h : LastLine report.toList core) :
    summary report = String.ofList (withoutPrefix core) := by
  have found :
      (Text.shownLines report.toList).getLast?.getD report.toList = core := by
    rw [Text.getLast?_shownLines h, Option.getD_some]
  exact congrArg (fun line => String.ofList (withoutPrefix line)) found

/-- No mark is found in a text of blanks, so all of it is kept. -/
theorem summary_of_blank (h : Blank report.toList) :
    summary report = report := by
  have none : Text.shownLines report.toList = [] :=
    Text.shownLines_append_blank h []
  have unmarked : ¬ reportPrefix <+: report.toList := by
    intro marked
    have first := h 'e' (marked.subset (by decide))
    exact absurd first (by decide)
  have found :
      (Text.shownLines report.toList).getLast?.getD report.toList
        = report.toList := by
    rw [none, List.getLast?_nil, Option.getD_none]
  calc summary report = String.ofList (withoutPrefix report.toList) :=
        congrArg (fun line => String.ofList (withoutPrefix line)) found
    _ = report := by rw [withoutPrefix_eq_self unmarked, String.ofList_toList]

/-- Blanks after a report are not seen. -/
theorem summary_append_blank {more : String} (h : ¬ Blank report.toList)
    (blank : Blank more.toList) :
    summary (report ++ more) = summary report := by
  obtain ⟨core, last⟩ := Text.exists_lastLine h
  have last' : LastLine (report ++ more).toList core := by
    rw [String.toList_append]
    exact last.append_blank blank
  rw [summary_of_lastLine last, summary_of_lastLine last']

/-- Lines before a report are not seen. -/
theorem summary_append_front {front : String} {ls : List Char}
    (h : ¬ Blank report.toList) (ended : front.toList = ls ++ ['\n']) :
    summary (front ++ report) = summary report := by
  obtain ⟨core, last⟩ := Text.exists_lastLine h
  have last' : LastLine (front ++ report).toList core := by
    rw [String.toList_append, ended, ← List.append_cons]
    exact last.append_front ls
  rw [summary_of_lastLine last, summary_of_lastLine last']

-- ========================================================== diagnostics

/-- What ends a line is a blank, and ends in a line feed. -/
theorem blank_of_lineEnd {lineEnd : String} (h : lineEnd ∈ ["\n", "\r\n"]) :
    Blank lineEnd.toList ∧ ∃ cs, lineEnd.toList = cs ++ ['\n'] := by
  rcases List.mem_cons.1 h with rfl | h
  · exact ⟨by decide, [], rfl⟩
  · obtain rfl := List.mem_singleton.1 h
    exact ⟨by decide, ['\r'], rfl⟩

/-- What is said about a pattern in order, whatever the report is. If the
report has lines that are not blank, it is the last of them, trimmed and
without a mark; it is not empty and takes one line, and neither blank lines
after the report nor any lines before it change it. If it has none, it is
the report as it stands. There is no place to name. -/
theorem locate_of_matcher {pattern : String} {nesting : Nat} {m : Matcher}
    (parses : analyse nesting pattern.toList = .ok m) (report : String) :
    ((∃ line ∈ Text.lines report.toList, Text.trim line ≠ []) →
      ∃ before line after message,
        Text.lines report.toList = before ++ line :: after ∧
        LastLine report.toList (Text.trim line) ∧
          (∀ l ∈ after, Text.trim l = []) ∧
        Unmarked (Text.trim line) message.toList ∧
        locate pattern nesting report = ⟨message, none⟩ ∧
        message ≠ "" ∧ OneLine message ∧
        ∀ lineEnd ∈ ["\n", "\r\n"], ∀ more,
          ((∀ l ∈ Text.lines more.toList, Text.trim l = []) →
            locate pattern nesting (report ++ lineEnd ++ more)
              = ⟨message, none⟩) ∧
          locate pattern nesting (more ++ lineEnd ++ report)
            = ⟨message, none⟩) ∧
    ((∀ line ∈ Text.lines report.toList, Text.trim line = []) →
      locate pattern nesting report = ⟨report, none⟩) := by
  have located (r : String) :
      locate pattern nesting r = ⟨summary r, none⟩ := by
    rw [locate, parses]
  constructor
  · rintro ⟨line, hline, shown⟩
    have unblank : ¬ Blank report.toList :=
      fun blank => shown (Text.blank_iff_lines.1 blank line hline)
    obtain ⟨core, last⟩ := Text.exists_lastLine unblank
    obtain ⟨before, line, after, split, rfl, blank⟩ := last.lines_eq
    have unmarked := unmarked_withoutPrefix (Text.trim line)
    refine ⟨before, line, after, summary report, split, last, blank, ?_,
      located report, ?_, ?_, ?_⟩
    · rw [summary_of_lastLine last, String.toList_ofList]
      exact unmarked
    · rw [summary_of_lastLine last]
      intro empty
      have none := congrArg String.toList empty
      rw [String.toList_ofList] at none
      exact unmarked.ne_nil last.trimmed none
    · rw [summary_of_lastLine last]
      exact Text.oneLine_ofList fun feed =>
        last.notMem_feed (unmarked.subset feed)
    · intro lineEnd hend more
      obtain ⟨blankEnd, cs, ended⟩ := blank_of_lineEnd hend
      refine ⟨fun blankMore => ?_, ?_⟩
      · have behind : Blank (lineEnd ++ more).toList := by
          rw [String.toList_append]
          exact List.forall_mem_append.2
            ⟨blankEnd, Text.blank_iff_lines.2 blankMore⟩
        rw [located, String.append_assoc, summary_append_blank unblank behind]
      · have front :
            (more ++ lineEnd).toList = (more.toList ++ cs) ++ ['\n'] := by
          rw [String.toList_append, ended, List.append_assoc]
        rw [located, summary_append_front unblank front]
  · intro blank
    rw [located, summary_of_blank (Text.blank_iff_lines.2 blank)]

/-- A line that consists of the mark alone has lost the blank at the end of
it, so it is no mark. Other lines before it and behind it change nothing. -/
theorem locate_of_matcher_marked :
    let report := "a\r\n \u00A0error: \t\r\n\u2003\n"
    (∃ m, analyse 2 "(é).".toList = .ok m) ∧
      (∃ line ∈ Text.lines report.toList, Text.trim line ≠ []) ∧
      LastLine report.toList "error:".toList ∧
      locate "(é)." 2 report = ⟨"error:", none⟩ ∧
      locate "(é)." 2 (report ++ "\r\n" ++ " \n\n") = ⟨"error:", none⟩ ∧
      locate "(é)." 2 ("error: b" ++ "\n" ++ report) = ⟨"error:", none⟩ := by
  intro report
  obtain ⟨m, parses⟩ : ∃ m, analyse 2 "(é).".toList = .ok m :=
    Expression.analyse_chars (.concat (.capture (.text ['é'])) .dot)
      List.nodup_nil (by decide)
  have shown : ∃ line ∈ Text.lines report.toList, Text.trim line ≠ [] :=
    ⟨['a'], by decide, List.cons_ne_nil _ _⟩
  obtain ⟨-, line, -, message, -, last, -, unmarked, located, -, -,
      unchanged⟩ :=
    (locate_of_matcher parses report).1 shown
  have found :
      (Text.shownLines report.toList).getLast? = some "error:".toList := by
    decide
  have mark : Text.trim line = "error:".toList :=
    Option.some.inj ((Text.getLast?_shownLines last).symm.trans found)
  rw [mark] at last unmarked
  obtain rfl : message = "error:" := by
    rcases unmarked with short | ⟨-, kept⟩
    · exact absurd (List.IsPrefix.length_le ⟨_, short.symm⟩) (by decide)
    · exact String.toList_inj.1 kept
  have blank : ∀ l ∈ Text.lines " \n\n".toList, Text.trim l = [] :=
    Text.blank_iff_lines.1 (by decide)
  have feed : "\n" ∈ ["\n", "\r\n"] := List.mem_cons_self
  have returned : "\r\n" ∈ ["\n", "\r\n"] :=
    List.mem_cons_of_mem _ List.mem_cons_self
  exact ⟨⟨m, parses⟩, shown, last, located, (unchanged _ returned _).1 blank,
    (unchanged _ feed "error: b").2⟩

end Diagnostic

end PatternCheck.Pattern
