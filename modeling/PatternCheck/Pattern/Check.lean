import PatternCheck.Pattern.Depth
import PatternCheck.Pattern.Meaning
import PatternCheck.Pattern.Prefixes
import PatternCheck.Pattern.Reader
import PatternCheck.Pattern.Size

/-
Checking a pattern against limits. A pattern is refused for its syntax,
for its nesting, for what it means, or for the size of its compiled
form, in this order; so the size is only ever looked at for patterns
that are otherwise in order, and a larger size limit admits no fewer of
them.
-/

namespace PatternCheck.Pattern

-- ============================================================== limits

/-- Bounds on patterns: the bytes of the compiled form, and the levels of
nesting. -/
structure Limits where
  size : Nat := 10485760
  nesting : Nat := 250
deriving Repr, DecidableEq, Inhabited

-- ========================================================== diagnostics

/-- Why a pattern is refused, in words, and where, in characters from its
start. -/
structure Diagnostic where
  message : String
  position : Option Nat
deriving Repr, DecidableEq, Inhabited

namespace Diagnostic

/-- The diagnostic in one line. -/
def display (d : Diagnostic) : String :=
  match d.position with
  | some p => s!"{d.message} at position {p}"
  | none => d.message

/-- The number of characters before a byte of a pattern, if a character
begins there or the pattern ends. -/
def charsBefore? : List Char → Nat → Option Nat
  | [], n => if n = 0 then some 0 else none
  | c :: rest, n =>
    if n = 0 then some 0
    else if c.utf8Size ≤ n then
      (charsBefore? rest (n - c.utf8Size)).map (· + 1)
    else none

/-- A place in a pattern as a number of characters. What is no such place
stays the number it is. -/
def charOffset (pattern : List Char) (pos : Nat) : Nat :=
  (charsBefore? pattern pos).getD pos

/-- A fault in words. -/
def ofFault (pattern : List Char) (f : Fault) : Diagnostic :=
  ⟨f.cause.message, some (charOffset pattern f.pos)⟩

/-- What a report says at the start of the line that counts. -/
def reportPrefix : List Char := "error: ".toList

/-- A text without the mark of a report. -/
def withoutPrefix (cs : List Char) : List Char :=
  if reportPrefix.isPrefixOf cs then cs.drop reportPrefix.length else cs

/-- The line of a report that counts: the last that is not blank, without
the blanks around it. A report of blank lines alone counts as a whole. -/
def summary (report : String) : String :=
  let trimmed := (Text.lines report.toList).map Text.trim
  let line := (trimmed.filter (!·.isEmpty)).getLast?.getD report.toList
  String.ofList (withoutPrefix line)

end Diagnostic

-- ============================================================= verdicts

/-- Why a pattern is not accepted. -/
inductive Rejection where
  | syntaxError (d : Diagnostic)
  | tooLarge (limit : Nat)
  | other (message : String)
deriving Repr, DecidableEq, Inhabited

namespace Rejection

/-- The rejection in one line. -/
def display : Rejection → String
  | syntaxError d => d.display
  | tooLarge limit =>
    s!"compiled pattern exceeds the size limit of {limit} bytes"
  | other message => message

/-- The diagnostic of a rejection for syntax. -/
def diagnostic? : Rejection → Option Diagnostic
  | syntaxError d => some d
  | _ => none

end Rejection

/-- The matcher of a pattern that nests no deeper than a limit. -/
def analyse (nesting : Nat) (pattern : List Char) : Except Fault Matcher := do
  let node ← Node.ofPattern pattern
  match node.beyond? nesting with
  | some pos => refuse (.tooDeep nesting) pos
  | none => return (← node.matcher {}).1

/-- What is wrong with a pattern, as far as its text shows it; otherwise
what a report says about it. -/
def Diagnostic.locate (pattern : String) (nesting : Nat) (report : String) :
    Diagnostic :=
  match analyse nesting pattern.toList with
  | .error f => .ofFault pattern.toList f
  | .ok _ => ⟨summary report, none⟩

/-- Whether a matcher fits a size limit. What is never compiled fits any. -/
def Matcher.fits (m : Matcher) (size : Nat) : Bool :=
  m.isTextSearch || m.compiledBytes ≤ size

-- ========================================================== compilation

/-- Why a pattern does not compile, as the compiler puts it. -/
inductive Refusal where
  /-- The pattern is in disorder; the report says how. -/
  | disorder (report : String)
  | oversize (limit : Nat)
  | other (message : String)
deriving Repr, DecidableEq, Inhabited

/-- The report on a fault; of its lines only the last one counts. -/
def Fault.report (f : Fault) : String :=
  String.ofList Diagnostic.reportPrefix ++ f.cause.message

/-- The matcher of a pattern that is within limits. -/
def Limits.compile (l : Limits) (pattern : String) : Except Refusal Matcher :=
  match analyse l.nesting pattern.toList with
  | .error f => .error (.disorder f.report)
  | .ok m => if m.fits l.size then .ok m else .error (.oversize l.size)

/-- What is made of a refusal: the place of a disorder is looked for in
the pattern itself. -/
def Limits.classify (l : Limits) (pattern : String) : Refusal → Rejection
  | .disorder report => .syntaxError (.locate pattern l.nesting report)
  | .oversize limit => .tooLarge limit
  | .other message => .other message

/-- The verdict on a pattern. -/
def Limits.check (l : Limits) (pattern : String) : Except Rejection Unit :=
  match l.compile pattern with
  | .error r => .error (l.classify pattern r)
  | .ok _ => .ok ()

/-- A pattern that cannot be read is not looked at any further. -/
theorem analyse_of_unreadable {n : Nat} {cs : List Char} {f : Fault}
    (h : Node.ofPattern cs = .error f) : analyse n cs = .error f := by
  rw [analyse, h]
  rfl

/-- A tree that is too deep is refused before its meaning is asked for. -/
theorem analyse_of_beyond {n pos : Nat} {cs : List Char} {x : Node}
    (h : Node.ofPattern cs = .ok x) (hb : x.beyond? n = some pos) :
    analyse n cs = .error ⟨.tooDeep n, pos⟩ := by
  rw [analyse, h]
  simp only [bind, Except.bind, hb]
  rfl

/-- The meaning of a tree that is not too deep decides. -/
theorem analyse_of_within {n : Nat} {cs : List Char} {x : Node}
    (h : Node.ofPattern cs = .ok x) (hb : x.beyond? n = none) :
    analyse n cs = (x.matcher {}).map (·.1) := by
  rw [analyse, h]
  simp only [bind, Except.bind, hb]
  cases x.matcher {} <;> rfl

variable {l : Limits} {pattern : String}

theorem Diagnostic.locate_of_fault {n : Nat} {f : Fault}
    (h : analyse n pattern.toList = .error f) (report : String) :
    Diagnostic.locate pattern n report = .ofFault pattern.toList f := by
  rw [Diagnostic.locate, h]

/-- A fault decides the verdict, whatever the size limit is. -/
theorem Limits.check_of_fault {f : Fault}
    (h : analyse l.nesting pattern.toList = .error f) :
    l.check pattern = .error (.syntaxError (.ofFault pattern.toList f)) := by
  rw [Limits.check, Limits.compile, h]
  simp only [Limits.classify, Diagnostic.locate_of_fault h]

/-- Without a fault only the size is left to decide. -/
theorem Limits.check_of_matcher {m : Matcher}
    (h : analyse l.nesting pattern.toList = .ok m) :
    l.check pattern
      = if m.fits l.size then .ok () else .error (.tooLarge l.size) := by
  rw [Limits.check, Limits.compile, h]
  by_cases fits : m.fits l.size = true
  · simp [fits]
  · simp [fits, Limits.classify]

end PatternCheck.Pattern
