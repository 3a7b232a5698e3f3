import PatternCheck.Pattern.Matcher
import PatternCheck.Text.Utf8
import PatternCheck.Unicode.ByteRange

/-
How much memory the compiled form of a matcher takes, by estimate. The
compiled form is an automaton over bytes whose states each take a fixed
amount, plus something for every way on from a state; a counted repetition
holds a copy of its operand for every time it may be repeated. The size is
worked out without building the automaton, so that counts in the thousands
of millions are no trouble; but how many states the automaton shares, and
what it takes beside them, is known only roughly, so that an estimate may
be wrong by a small factor.
-/

namespace PatternCheck.Pattern

open Unicode (CodeSet ByteRange beginnings)

-- =============================================================== states

/-- A state by itself. -/
def stateBytes : Nat := 32

/-- A way on for a range of bytes. -/
def edgeBytes : Nat := 8

/-- A way on without reading. -/
def branchBytes : Nat := 4

/-- A state that chooses between two ways on. -/
def splitBytes : Nat := stateBytes + 2 * branchBytes

/-- What every automaton has besides its pattern: the loop that finds
where a match begins, the bounds of the whole match, the final state. -/
def frameBytes : Nat := 6 * stateBytes + splitBytes

-- ================================================================ parts

/-- One character of a set. Within ASCII one state has an edge for every
range; otherwise the spellings share the states of common beginnings. -/
def setBytes (s : CodeSet) : Nat :=
  if s.below 0x80 then 2 * stateBytes + s.ranges.length * edgeBytes
  else
    let spellings := ByteRange.ofSet s
    2 * stateBytes + spellings.length * branchBytes
      + beginnings [] 0 spellings * stateBytes

/-- A choice between texts, which share the states of common beginnings
or, read backwards, of common ends. -/
def textsBytes (texts : List (List Char)) : Nat :=
  let states (bytes : List (List UInt8)) : Nat :=
    beginnings [] 0 (bytes.mergeSort fun a b => decide (a ≤ b))
  let bytes := texts.map Text.Utf8.encode
  stateBytes + max (states bytes) (states (bytes.map List.reverse))
    * (stateBytes + edgeBytes)

/-- The texts of a choice that has nothing else. -/
def texts? (subs : List Matcher) : Option (List (List Char)) :=
  subs.mapM text?
where
  text? : Matcher → Option (List Char)
    | .text cs => some cs
    | _ => none

/-- A repetition of something that takes `b` bytes; `emptyToo` says
whether that can match the empty text. -/
def repetitionBytes (count : Count) (b : Nat) (emptyToo : Bool) : Nat :=
  match count with
  | ⟨0, none⟩ =>
    if emptyToo then b + 2 * splitBytes + stateBytes else b + splitBytes
  | ⟨n, none⟩ => n * b + splitBytes
  | ⟨m, some n⟩ =>
    if m = n then n * b
    else m * b + (n - m) * (b + splitBytes) + stateBytes

namespace Matcher

/-- An estimate of the bytes that the states of a matcher take. -/
def bytes : Matcher → Nat
  | .empty => stateBytes
  | .text cs => Text.Utf8.length cs * stateBytes
  | .set s => setBytes s
  | .assertion .. => stateBytes
  | .repetition count _ sub =>
    repetitionBytes count sub.bytes (sub.minBytes? == some 0)
  | .capture sub => sub.bytes + 2 * stateBytes
  | .sequence subs => all subs
  | .choice subs =>
    match texts? subs with
    | some texts => textsBytes texts
    | none => all subs + subs.length * branchBytes + 2 * stateBytes
where
  /-- The states of all parts. -/
  all : List Matcher → Nat
    | [] => 0
    | x :: rest => x.bytes + all rest

/-- An estimate of the size of the compiled form. A limit that is far from
it, by a factor of four, is met or missed by the compiled form itself
alike. -/
def compiledBytes (m : Matcher) : Nat := frameBytes + m.bytes

end Matcher

end PatternCheck.Pattern
