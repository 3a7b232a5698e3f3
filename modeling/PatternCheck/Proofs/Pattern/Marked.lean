import PatternCheck.Proofs.Pattern.Rejection

/-
The character that a rejection points at. Causes that are about one
character name it (`Cause.marks`), and what is reported of a fault is where
such a character stands, counted in characters (`HasMark.getElem?`). Since
no other cause is worded like one of these (`Cause.eq_of_message`), the
words of a rejection are enough to know what its position holds
(`check_error_marked`).
-/

namespace PatternCheck.Pattern

variable {p : List Char}

-- ================================================================ places

/-- Counted in characters, the place of a character is its index. -/
theorem HasMark.getElem? {n : Nat} {x : Char} (h : HasMark p n x) :
    p[Diagnostic.charOffset p n]? = some x := by
  obtain ⟨rest, before, hp, hn⟩ := h
  have hp : p = before ++ x :: rest := hp
  have hn : n = Text.Utf8.length before := hn
  rw [hp, hn, charOffset_length, List.getElem?_append_right (Nat.le_refl _),
    Nat.sub_self]
  rfl

-- ================================================================= words

/-- Texts that begin with different characters are different. -/
private theorem ofList_append_ne {x y : Char} {xs ys : List Char} {s : String}
    (h : x ≠ y) : String.ofList (x :: xs) ++ s ≠ String.ofList (y :: ys) := by
  intro e
  have chars := congrArg String.toList e
  rw [String.toList_append, String.toList_ofList,
    String.toList_ofList] at chars
  exact h (List.cons.inj chars).1

/-- A cause that names a character is the only one with its words. -/
theorem Cause.eq_of_message {cause other : Cause} (named : cause.marks ≠ [])
    (h : other.message = cause.message) : other = cause := by
  cases other with
  | tooDeep limit =>
      -- these words go on with a number, and no others begin like them
      have words : (tooDeep limit).message =
          "exceed the maximum number of nested parentheses/brackets (" ++
            (toString limit ++ ")") := String.append_assoc
      rw [words] at h
      cases cause <;>
        first
        | exact absurd rfl named
        | exact absurd h (ofList_append_ne (by decide))
  | _ =>
      unfold Cause.message at h
      cases cause <;> first | exact absurd rfl named | rfl | simp at h

-- ============================================================ rejections

/-- Words that only a cause with marks has stand at one of these marks. -/
theorem mark_of_check {l : Limits} {pattern message : String} {i : Nat}
    (cause : Cause)
    (h : l.check pattern = .error (.syntaxError ⟨message, some i⟩))
    (named : cause.marks ≠ []) (words : message = cause.message) :
    ∃ x ∈ cause.marks, pattern.toList[i]? = some x := by
  rcases check_error_cases h with hr | ⟨f, hf, hr⟩
  · cases hr
  · obtain ⟨-, marked⟩ :=
      (analyse_located l.nesting pattern.toList).of_error hf
    obtain ⟨hm, hi⟩ : message = f.cause.message ∧
        some i = some (Diagnostic.charOffset pattern.toList f.pos) := by
      simpa [Diagnostic.ofFault] using hr
    have same : f.cause = cause :=
      Cause.eq_of_message named (hm.symm.trans words)
    rw [same] at marked
    obtain ⟨x, hx, mark⟩ := marked.resolve_left named
    exact ⟨x, hx, by rw [Option.some.inj hi]; exact mark.getElem?⟩

/-- The position of a rejection holds the character that its words are about:
the parenthesis or bracket that is left open, the parenthesis that closes
nothing, the operator that repeats nothing, or the backslash of an escape
that there is not. -/
theorem check_error_marked {l : Limits} {pattern message : String} {i : Nat}
    (h : l.check pattern = .error (.syntaxError ⟨message, some i⟩)) :
    (message = "unclosed group" → pattern.toList[i]? = some '(') ∧
      (message =
        "look-around, including look-ahead and look-behind, is not supported" →
        pattern.toList[i]? = some '(') ∧
      (message = "unopened group" → pattern.toList[i]? = some ')') ∧
      (message = "unclosed character class" → pattern.toList[i]? = some '[') ∧
      (message = "repetition operator missing expression" →
        ∃ x ∈ ['?', '*', '+', '\x7b'], pattern.toList[i]? = some x) ∧
      (message = "unrecognized escape sequence" →
        pattern.toList[i]? = some '\\') ∧
      (message = "backreferences are not supported" →
        pattern.toList[i]? = some '\\') := by
  have only (cause : Cause) {x : Char} (marks : cause.marks = [x])
      (words : message = cause.message) : pattern.toList[i]? = some x := by
    obtain ⟨y, hy, hi⟩ := mark_of_check cause h (by simp [marks]) words
    rw [marks, List.mem_singleton] at hy
    rwa [← hy]
  refine ⟨?_, ?_, ?_, ?_, ?_, ?_, ?_⟩
  · exact only .groupUnclosed rfl
  · exact only .lookAround rfl
  · exact only .groupUnopened rfl
  · exact only .classUnclosed rfl
  · exact mark_of_check .nothingToRepeat h (List.cons_ne_nil _ _)
  · exact only .escapeUnknown rfl
  · exact only .backreference rfl

/-- In verbose mode, a parenthesis in a comment does not count; the bracket
after it, behind characters of two bytes, is the one that is left open. -/
theorem check_error_marked_commented :
    Limits.check {} "(?x)é # (\n [é" =
        .error (.syntaxError ⟨"unclosed character class", some 11⟩) ∧
      "(?x)é # (\n [é".toList[11]? = some '[' := by
  have open_class : Limits.check {} "(?x)é # (\n [é" =
      .error (.syntaxError ⟨"unclosed character class", some 11⟩) := by
    decide +kernel
  exact ⟨open_class, (check_error_marked open_class).2.2.2.1 rfl⟩

end PatternCheck.Pattern
