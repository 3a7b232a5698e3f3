/-
Reading a text from its beginning: a scanner takes characters from the
front and gives what it has read, or fails and then has taken nothing
that another one could not take again. Alternatives are tried in order
with `<|>`. What repeats is read by `many`, which stops where its part
fails or takes nothing.
-/

namespace PatternCheck.Text

/-- A scanner: from the characters left to a result and those left after
it. -/
abbrev Scan (α : Type) := StateT (List Char) Option α

namespace Scan

/-- The next character, which is left where it is. -/
def peek : Scan (Option Char) := fun cs => some (cs.head?, cs)

/-- Whether nothing is left. -/
def atEnd : Scan Bool := fun cs => some (cs.isEmpty, cs)

/-- The next character, if it satisfies something. -/
def one (p : Char → Bool) : Scan Char
  | c :: rest => if p c then some (c, rest) else none
  | [] => none

/-- The next character, whatever it is. -/
def any : Scan Char := one fun _ => true

/-- Past a character. -/
def char (c : Char) : Scan Unit :=
  fun cs => (one (· = c) cs).map fun (_, rest) => ((), rest)

/-- Past a text. -/
def exactly (text : String) : Scan Unit := fun cs =>
  let wanted := text.toList
  if wanted.isPrefixOf cs then some ((), cs.drop wanted.length) else none

/-- The longest run of characters that satisfy something. -/
def span (p : Char → Bool) : Scan (List Char) :=
  fun cs => some (cs.takeWhile p, cs.dropWhile p)

/-- The same, but at least one character. -/
def someSpan (p : Char → Bool) : Scan (List Char) := fun cs =>
  if (cs.head?.any p) then span p cs else none

/-- A thing that may be missing. -/
def maybe {α : Type} (s : Scan α) : Scan (Option α) := fun cs =>
  match s cs with
  | some (a, rest) => some (some a, rest)
  | none => some (none, cs)

/-- Whether something comes next, which is left where it is. -/
def comes {α : Type} (s : Scan α) : Scan Bool :=
  fun cs => some ((s cs).isSome, cs)

/-- At most `fuel` things; `acc` holds those read, latest first. -/
def repeated {α : Type} (s : Scan α) : Nat → List α → Scan (List α)
  | 0, acc, cs => some (acc.reverse, cs)
  | fuel + 1, acc, cs =>
    match s cs with
    | some (a, rest) =>
      if rest.length < cs.length then repeated s fuel (a :: acc) rest
      else some (acc.reverse, cs)
    | none => some (acc.reverse, cs)

/-- As many things as there are. -/
def many {α : Type} (s : Scan α) : Scan (List α) :=
  fun cs => repeated s cs.length [] cs

/-- Things with separators between them, as many as there are. -/
def separated {α β : Type} (s : Scan α) (separator : Scan β) : Scan (List α) :=
  fun cs =>
  match s cs with
  | none => some ([], cs)
  | some (a, rest) =>
    let next : Scan α := do
      let _ ← separator
      s
    (many next rest).map fun (as, rest) => (a :: as, rest)

/-- What a whole text is read as. -/
def whole {α : Type} (s : Scan α) (text : List Char) : Option α :=
  match s text with
  | some (a, []) => some a
  | _ => none

end Scan

end PatternCheck.Text
