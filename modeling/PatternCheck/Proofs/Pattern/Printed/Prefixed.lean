import PatternCheck.Proofs.Pattern.Depth
import PatternCheck.Proofs.Pattern.Grouping
import PatternCheck.Proofs.Pattern.Located.Tree
import PatternCheck.Proofs.Pattern.Moved.Tree
import PatternCheck.Proofs.Pattern.Preceded
import PatternCheck.Proofs.Pattern.Printed.Escaped

/-
Escaped text in front of a pattern. Its characters are items in front of
all that the pattern has, and the pattern is read behind them as it is
read alone, only further on (`ofPattern_escape_append`). So what is wrong
with the pattern alone is still wrong with it, and it is still the first
thing that is (`analyse_escape_append`); its place is as many characters
further on as the escaped text has (`Diagnostic.locate_escaped_append`).

The text and what follows it may take one level of nesting more than the
pattern alone. A pattern that begins with a repetition operator is another
one behind a text, since the operator then has something to repeat.
-/

namespace PatternCheck.Pattern

open State (literals Unrepeated)
open Text.Utf8 (length length_append)

variable {cs : List Char}

/-- What is refused in the end is refused from the start. -/
theorem error_of_map {α β : Type} {x : Except Fault α} {f : α → β} {e : Fault}
    (h : x.map f = .error e) : x = .error e := by
  cases x with
  | ok a => cases h
  | error e' => exact congrArg _ (Except.error.inj h)

/-- With Unicode characters mean something, and change no modes. -/
theorem modesAfter_literals {m : Modes} (hm : m.unicode = true)
    (cs : List Char) (n : Nat) :
    Node.modesAfter m (literals n cs) = .ok m := by
  have plain (cs : List Char) : ∀ n, Node.AllPlain (literals n cs) := by
    induction cs with
    | nil => exact fun _ => trivial
    | cons c cs ih => exact fun n => ⟨trivial, ih _⟩
  obtain ⟨subs, sound⟩ := Node.AllPlain.matchers hm (plain cs n)
  rw [Node.modesAfter, sound]
  rfl

/-- A pattern is read behind an escaped text as it is read alone, only
further on and with the text in front. -/
theorem ofPattern_escape_append (h : Unrepeated cs) (text : List Char) :
    Alike (Node.Preceded (literals 0 text))
      (Outcome.moved (length (escape text)) (Node.moved (length (escape text)))
        (Node.ofPattern cs))
      (Node.ofPattern (escape text ++ cs)) := by
  have behind : Node.ofPattern (escape text ++ cs) =
      (State.outside cs (0 + length (escape text))
        ((Level.start 0).pushAll (literals 0 text))
        [] []).run := State.run_escape text
  have front : (Level.start 0).pushAll (literals 0 text) =
      ⟨0, [], 0, [] ++ (literals 0 text).reverse⟩ := by
    rw [Level.pushAll, Level.start, List.append_nil]
    rfl
  have beside :
      ((State.start cs).moved (length (escape text))).Beside (literals 0 text)
        (State.outside cs (0 + length (escape text))
          ((Level.start 0).pushAll (literals 0 text)) [] []) := by
    rw [front]
    exact .intro _ _ _ _ (.outermost (.first _ _ _ _ []))
  rw [behind, Node.ofPattern, ← State.run_moved]
  exact beside.run fun _ => .inr h

/-- What is wrong with a pattern alone is wrong with it behind an escaped
text, unless it is its nesting, which is one level deeper there. -/
theorem analyse_escape_append {nesting : Nat} {f : Fault} (h : Unrepeated cs)
    (text : List Char) (hf : analyse nesting cs = .error f)
    (shallow : f.cause ≠ .tooDeep nesting) :
    analyse (nesting + 1) (escape text ++ cs)
      = .error (f.moved (length (escape text))) := by
  have alike := ofPattern_escape_append h text
  generalize hr : Node.ofPattern (escape text ++ cs) = r at alike
  cases hp : Node.ofPattern cs with
  | error e =>
      rw [hp] at alike
      obtain - | e := alike
      rw [analyse_of_unreadable hp] at hf
      cases hf
      exact analyse_of_unreadable hr
  | ok x =>
      rw [hp] at alike
      obtain @⟨_, x', tree⟩ := alike
      cases hb : x.beyond? nesting with
      | some pos =>
          rw [analyse_of_beyond hp hb] at hf
          cases hf
          exact absurd rfl shallow
      | none =>
          have within : x'.beyond? (nesting + 1) = none := by
            have alone := (Node.beyond?_eq_none_iff nesting x).1 hb
            have together := tree.depth_le (depths_literals text 0)
            rw [Node.depth_moved] at together
            exact (Node.beyond?_eq_none_iff _ x').2 (by omega)
          have sound : Node.modesAfter {} (literals 0 text) = .ok {} :=
            modesAfter_literals rfl text 0
          have refused : x.matcher {} = .error f := by
            rw [analyse_of_within hp hb] at hf
            exact error_of_map hf
          have moved : (x.moved (length (escape text))).matcher {} =
              .error (f.moved (length (escape text))) := by
            rw [Node.matcher_moved, refused]
            rfl
          have behind :
              x'.matcher {} = .error (f.moved (length (escape text))) := by
            refine error_of_map ((tree.modes sound).trans ?_)
            rw [moved]
            rfl
          rw [analyse_of_within hr within, behind]
          rfl

/-- A place of a pattern is as many characters further on behind another
text as that text has. -/
theorem IsPlace.charOffset_append {n : Nat} (h : IsPlace cs n)
    (before : List Char) :
    Diagnostic.charOffset (before ++ cs) (n + length before) =
      Diagnostic.charOffset cs n + before.length := by
  obtain ⟨rest, taken, rfl, hn⟩ := h
  have bytes : n + length before = length (before ++ taken) := by
    rw [length_append, Nat.add_comm]
    exact congrArg _ hn
  rw [bytes, ← List.append_assoc, charOffset_length,
    show n = length taken from hn, charOffset_length, List.length_append,
    Nat.add_comm]

/-- What is reported of a pattern that does not begin with a repetition
operator is reported behind any escaped text, as many characters further
on as this text has, unless it is too much nesting. -/
theorem Diagnostic.locate_escaped_append {pattern : String} {nesting : Nat}
    {report message : String} {position : Nat}
    (h : ∀ x ∈ ['?', '*', '+', '\x7b'], pattern.toList.head? ≠ some x)
    (located : locate pattern nesting report = ⟨message, some position⟩)
    (shallow : message ≠ (Cause.tooDeep nesting).message)
    (text report' : String) :
    locate (escaped text ++ pattern) (nesting + 1) report' =
      ⟨message, some (position + (escaped text).length)⟩ := by
  have characters :
      (escaped text ++ pattern).toList
        = escape text.toList ++ pattern.toList := by
    rw [String.toList_append, escaped, String.toList_ofList]
  cases hf : analyse nesting pattern.toList with
  | ok m =>
      rw [locate, hf] at located
      have nowhere : none = some position :=
        congrArg Diagnostic.position located
      cases nowhere
  | error f =>
      have place := ((analyse_located nesting pattern.toList).of_error hf).1
      rw [locate_of_fault hf] at located
      obtain ⟨rfl, at_position⟩ := Diagnostic.mk.inj located
      obtain rfl := Option.some.inj at_position
      have moved :=
        analyse_escape_append h text.toList hf fun e => shallow (congrArg _ e)
      rw [← characters] at moved
      have offset := place.charOffset_append (escape text.toList)
      have count : (escape text.toList).length = (escaped text).length := by
        rw [escaped, String.length_ofList]
      rw [count] at offset
      rw [locate_of_fault moved, ofFault, characters]
      exact congrArg (fun i => Diagnostic.mk f.cause.message (some i)) offset

/-- A bracket that is not closed, the third character and the fourth byte of
its pattern, behind three more characters. -/
theorem Diagnostic.locate_escaped_append_class :
    escaped "é(" = "é\\(" ∧
      locate "ä|[a" 0 "" = ⟨"unclosed character class", some 2⟩ ∧
      locate "é\\(ä|[a" 1 "" = ⟨"unclosed character class", some 5⟩ := by
  have unreadable :
      Node.ofPattern "ä|[a".toList = .error ⟨.classUnclosed, 3⟩ :=
    (State.run_of_more rfl).trans <| (State.run_of_more rfl).trans <|
      (State.run_of_more rfl).trans (State.run_of_error rfl)
  have alone : locate "ä|[a" 0 "" = ⟨"unclosed character class", some 2⟩ := by
    rw [locate_of_fault (analyse_of_unreadable unreadable)]
    decide
  have text : escaped "é(" = "é\\(" := by decide
  have unrepeated :
      ∀ x ∈ ['?', '*', '+', '\x7b'], "ä|[a".toList.head? ≠ some x := by
    intro x hx head
    have first : "ä|[a".toList.head? = some 'ä' := by decide
    obtain rfl := Option.some.inj (first.symm.trans head)
    exact absurd hx (by decide)
  have behind := locate_escaped_append unrepeated alone (by decide) "é(" ""
  rw [text] at behind
  exact ⟨text, alone, behind⟩

end PatternCheck.Pattern
