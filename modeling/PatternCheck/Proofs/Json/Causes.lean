import PatternCheck.Json.Document
import PatternCheck.Proofs.Text.Lines

/-
What can be wrong with a document of no particular shape. A reader that
takes any value there is finds fault with the text only, never with what
the text says: its problems are `Formal`. Each of these is reported in
words of the reader's own, with nothing of the document in them, so that
a report takes one line whatever was read (`Problem.message_oneLine`).
-/

namespace PatternCheck.Json

open Text (OneLine oneLine_ofList oneLine_toString)

/-- A cause that lies in the text, and not in what it says. -/
def Cause.InText : Cause → Prop
  | .mismatch _ => False
  | _ => True

/-- A fault in the text is said in words of the reader's own. -/
theorem Cause.message_oneLine {cause : Cause} (h : cause.InText) :
    OneLine cause.message := by
  cases cause with
  | mismatch m => exact absurd h id
  | _ => exact oneLine_ofList (by decide)

/-- Whatever is wrong lies in the text. -/
def Formal {α : Type} (r : Except Problem α) : Prop :=
  ∀ p, r = .error p → p.cause.InText

section Outcomes

variable {α β : Type} {r : Except Problem α}

/-- Where nothing is wrong, nothing is wrong with what the text says. -/
theorem Formal.ok (a : α) : Formal (.ok a) := fun _ h => nomatch h

/-- A problem with a cause in the text. -/
theorem Formal.error {p : Problem} (h : p.cause.InText) :
    Formal (α := α) (.error p) := by
  intro q hq
  cases hq
  exact h

/-- A problem that is passed on. -/
theorem Formal.of_error {p : Problem} (h : Formal r) (hr : r = .error p) :
    Formal (α := β) (.error p) := .error (h p hr)

/-- One reader after another. -/
theorem Formal.bind {next : α → Except Problem β} (h : Formal r)
    (hnext : ∀ a, Formal (next a)) : Formal (r.bind next) := by
  cases r with
  | error p => exact h.of_error rfl
  | ok a => exact hnext a

/-- A reader whose result is made into something else. -/
theorem Formal.map (h : Formal r) (f : α → β) : Formal (r.map f) := by
  cases r with
  | error p => exact h.of_error rfl
  | ok a => exact .ok (f a)

/-- One reader or another. -/
theorem Formal.ite {p : Prop} [Decidable p] {r' : Except Problem α}
    (h : Formal r) (h' : Formal r') : Formal (if p then r else r') := by
  split
  · exact h
  · exact h'

end Outcomes

namespace Cursor

variable {α σ : Type}

/-- A fault in front of the next byte. -/
theorem formal_here (c : Cursor) {cause : Cause} (h : cause.InText) :
    Formal (α := α) (c.here cause) := .error h

/-- A fault that the next byte shows. -/
theorem formal_ahead (c : Cursor) {cause : Cause} (h : cause.InText) :
    Formal (α := α) (c.ahead cause) := .error h

-- ================================================================ words

/-- A word that is begun has to be completed. -/
theorem word_formal (bs : List UInt8) : ∀ c : Cursor, Formal (c.word bs) := by
  induction bs with
  | nil => exact fun c => .ok c
  | cons b bs ih =>
      intro c
      rw [word]
      split
      · exact c.formal_here trivial
      · exact .ite (ih _) (c.formal_ahead trivial)

-- ============================================================== strings

/-- Four digits, or the text is wrong. -/
theorem hexFour_formal (c : Cursor) : Formal c.hexFour := by
  unfold hexFour
  split
  · split
    · exact .ok _
    · exact formal_here _ trivial
  · exact .error trivial

theorem pairMark_formal (c : Cursor) (x : Char) : Formal (c.pairMark x) :=
  .ite (c.formal_here trivial) (.ite (.ok ()) (c.formal_ahead trivial))

/-- Half of a pair by itself is wrong as a text, and so is a pair out of
order. -/
theorem numberedChar_formal (c : Cursor) : Formal c.numberedChar := by
  refine c.hexFour_formal.bind fun n =>
    .ite (formal_here _ trivial) (.ite ?_ (.ok _))
  refine (pairMark_formal _ _).bind fun () =>
    (pairMark_formal _ _).bind fun () => ?_
  exact (hexFour_formal _).bind fun n' => .ite (.ok _) (formal_here _ trivial)

/-- An unknown letter after a backslash is wrong as a text. -/
theorem escape_formal (c : Cursor) : Formal c.escape := by
  unfold escape
  split
  · exact c.formal_here trivial
  · refine .ite ((numberedChar_formal _).map _) ?_
    split
    · exact .ok _
    · exact c.formal_ahead trivial

/-- A string may be left open, may have a control character in it, or bytes
that are no characters. -/
theorem stringFrom_formal (acc : List Char) (bad : Option Nat) (pos : Nat)
    (bytes : List UInt8) : Formal (stringFrom acc bad pos bytes) := by
  fun_induction stringFrom acc bad pos bytes with
  | case1 | case3 | case6 => exact .error trivial
  | case2 => exact .ok _
  | case4 _ _ _ _ _ he _ => exact (escape_formal _).of_error he
  | case5 _ _ _ _ _ _ _ _ ih => exact ih
  | case7 _ _ _ _ _ _ _ _ _ _ _ ih => exact ih
  | case8 _ _ _ _ _ _ _ _ _ ih => exact ih

theorem string_formal (c : Cursor) : Formal c.string :=
  (stringFrom_formal _ _ _ _).map _

-- ============================================================== numbers

/-- A number too large to be held is wrong as a text. -/
theorem decimal_formal (c : Cursor) (isNegative : Bool) (significand : Nat)
    (exponent : Int) : Formal (c.decimal isNegative significand exponent) := by
  unfold decimal
  split
  · exact .ok _
  · exact c.formal_here trivial

/-- An exponent without digits is wrong as a text. -/
theorem exponent_formal (c : Cursor) (isNegative : Bool) (significand : Nat)
    (shift : Int) : Formal (c.exponent isNegative significand shift) := by
  unfold exponent
  dsimp only
  split
  · exact formal_here _ trivial
  · refine .ite (formal_ahead _ trivial) ?_
    split
    · exact decimal_formal _ _ _ _
    · exact .ite (.ok _) (formal_here _ trivial)

/-- So is a fraction without any. -/
theorem fraction_formal (c : Cursor) (isNegative : Bool) (significand : Nat)
    (shift : Int) : Formal (c.fraction isNegative significand shift) := by
  unfold fraction
  dsimp only
  refine .ite (.ite (formal_here _ trivial) (formal_ahead _ trivial)) ?_
  exact .ite (exponent_formal _ _ _ _) (decimal_formal _ _ _ _)

/-- So is a number with a zero in front. -/
theorem unsigned_formal (c : Cursor) (isNegative : Bool) :
    Formal (c.unsigned isNegative) := by
  unfold unsigned
  split
  · exact c.formal_here trivial
  · dsimp only
    refine .ite (c.formal_ahead trivial) (.ite (formal_ahead _ trivial) ?_)
    refine .ite (fraction_formal _ _ _ _) (.ite (exponent_formal _ _ _ _) ?_)
    exact .ite (.ok _) (decimal_formal _ _ _ _)

theorem number_formal (c : Cursor) : Formal c.number :=
  .ite (unsigned_formal _ true) (unsigned_formal _ false)

-- ==================================================== lists and objects

/-- A reader that carries a state along and whose problems lie in the text. -/
def FormalStep (step : Step σ) : Prop := ∀ s c, Formal (step s c)

variable {step : Step σ}

/-- A list is as formal as its items, with commas between them. -/
theorem items_formal (h : FormalStep step) (fuel : Nat) :
    ∀ first, FormalStep (items .attentive step fuel first) := by
  induction fuel with
  | zero => exact fun first s c => c.formal_here trivial
  | succ fuel ih =>
      intro first s c
      rw [items]
      -- an item is read at two places: at the head and after a comma
      refine .ite (formal_here _ trivial) (.ite (.ok _) (.ite ?_
        (.ite (.ite (formal_here _ trivial) (.ite (formal_ahead _ trivial) ?_))
          (formal_ahead _ trivial))))
      all_goals
        split
        · next e he => exact (h s _).of_error he
        · exact ih false _ _

/-- So is an object, with keys that are strings. -/
theorem members_formal (h : FormalStep step) (fuel : Nat) :
    ∀ first, FormalStep (members .attentive step fuel first) := by
  induction fuel with
  | zero => exact fun first s c => c.formal_here trivial
  | succ fuel ih =>
      intro first s c
      rw [members]
      refine .ite (formal_here _ trivial)
        (.ite (.ok _) (.ite (formal_ahead _ trivial) ?_))
      refine .ite (formal_here _ trivial) (.ite ?_ ?_)
      · split
        · next e he => exact (h s _).of_error he
        · exact ih false _ _
      · exact .ite (formal_ahead _ trivial) (formal_ahead _ trivial)

theorem colon_formal (c : Cursor) : Formal c.colon :=
  .ite (formal_here _ trivial) (.ite (.ok _) (formal_ahead _ trivial))

-- =============================================================== values

variable {nested value : Cursor → Reading Value}

/-- A value by its first byte; a byte that begins none is wrong as a text. -/
theorem scalarOr_formal (h : ∀ c, Formal (nested c)) (c : Cursor) :
    Formal (scalarOr nested c) := by
  have literal (text : String) (v : Value) (c : Cursor) :
      Formal ((c.literal text).map (v, ·)) :=
    (word_formal _ _).map _
  unfold scalarOr
  dsimp only
  split
  · exact formal_here _ trivial
  · refine .ite (literal _ _ _)
      (.ite (literal _ _ _) (.ite (literal _ _ _) ?_))
    refine .ite ((number_formal _).map _) (.ite ((string_formal _).map _) ?_)
    exact .ite (h _) (formal_ahead _ trivial)

/-- Lists and objects are as formal as the values in them. -/
theorem nestedOf_formal (h : ∀ c, Formal (value c)) (c : Cursor) :
    Formal (nestedOf value c) := by
  refine .ite ((items_formal (fun acc c => (h c).map _) _ _ _ _).map _)
    ((members_formal (fun acc c => ?_) _ _ _ _).map _)
  exact (string_formal _).bind fun _ => (colon_formal _).bind fun c =>
    (h c).map _

/-- A value, however deep: with no room left, the depth is at fault, which is
a matter of the text. -/
theorem value_formal (depth : Nat) : ∀ c, Formal (Cursor.value depth c) := by
  induction depth with
  | zero => exact scalarOr_formal fun c => c.formal_ahead trivial
  | succ depth ih => exact scalarOr_formal (nestedOf_formal ih)

theorem finish_formal (c : Cursor) : Formal c.finish :=
  .ite (.ok ()) (formal_ahead _ trivial)

end Cursor

/-- Whatever is wrong with a document of no particular shape lies in its
text. -/
theorem ofBytes_formal (bytes : List UInt8) : Formal (Value.ofBytes bytes) :=
  (Cursor.value_formal _ _).bind fun (_, c) =>
    c.finish_formal.bind fun () => .ok _

/-- A report on what lies in the text takes one line. -/
theorem Problem.message_oneLine {p : Problem} (h : p.cause.InText)
    (bytes : List UInt8) : OneLine (p.message bytes) := by
  have line : OneLine " at line " := oneLine_ofList (by decide)
  have column : OneLine " column " := oneLine_ofList (by decide)
  exact ((((Cause.message_oneLine h).append line).append
    (oneLine_toString _)).append column).append (oneLine_toString _)

end PatternCheck.Json
