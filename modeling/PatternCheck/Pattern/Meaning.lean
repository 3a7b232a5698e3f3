import PatternCheck.Pattern.Fault
import PatternCheck.Pattern.Matcher
import PatternCheck.Unicode.CaseFolding

/-
From the syntax tree to what it matches. The walk goes through the tree
in reading order and carries the `Modes` that flags have set so far: a
change of flags holds up to the end of the group it stands in, across
the alternatives that follow. Classes become sets of characters; where
Unicode is switched off they are sets of bytes, and none that goes
beyond ASCII is admitted, since it could match broken UTF-8.
-/

namespace PatternCheck.Pattern

open Unicode (CodeSet PropertyQuery PropertyError Interval)

-- ============================================================== modes

/-- The flags in force at some place of a pattern. -/
structure Modes where
  caseInsensitive : Bool := false
  multiLine : Bool := false
  dotMatchesNewLine : Bool := false
  swapGreed : Bool := false
  unicode : Bool := true
  crlf : Bool := false
deriving Repr, DecidableEq, Inhabited

namespace Modes

/-- Sets or clears one flag. Verbose mode has no meaning after reading. -/
def change (m : Modes) : Flag × Bool → Modes
  | (.caseInsensitive, b) => { m with caseInsensitive := b }
  | (.multiLine, b) => { m with multiLine := b }
  | (.dotMatchesNewLine, b) => { m with dotMatchesNewLine := b }
  | (.swapGreed, b) => { m with swapGreed := b }
  | (.unicode, b) => { m with unicode := b }
  | (.crlf, b) => { m with crlf := b }
  | (.verbose, _) => m

def apply (m : Modes) (changes : FlagChanges) : Modes := changes.foldl change m

/-- Adds what differs in case alone, if case does not count. -/
def fold (m : Modes) (s : CodeSet) : CodeSet :=
  if !m.caseInsensitive then s
  else if m.unicode then s.foldCase
  else s.foldAsciiCase

end Modes

-- ========================================================= known classes

/-- Decimal digits. -/
def digitSet : CodeSet := Unicode.Category.nd

/-- White space. -/
def spaceSet : CodeSet := Unicode.Trait.whiteSpace

/-- Letters, marks, digits and connectors. -/
def wordSet : CodeSet :=
  Unicode.Trait.alphabetic ++ Unicode.Category.mark ++ Unicode.Category.nd
    ++ Unicode.Category.pc ++ Unicode.Trait.joinControl

namespace AsciiClass

/-- The members of a named ASCII class. -/
def members : AsciiClass → CodeSet
  | alnum => .ofText "30-39 41-5A 61-7A"
  | alpha => .ofText "41-5A 61-7A"
  | ascii => .ofText "0-7F"
  | blank => .ofText "9 20"
  | cntrl => .ofText "0-1F 7F"
  | digit => .ofText "30-39"
  | graph => .ofText "21-7E"
  | lower => .ofText "61-7A"
  | print => .ofText "20-7E"
  | punct => .ofText "21-2F 3A-40 5B-60 7B-7E"
  | space => .ofText "9-D 20"
  | upper => .ofText "41-5A"
  | word => .ofText "30-39 41-5A 5F 61-7A"
  | xdigit => .ofText "30-39 41-46 61-66"

end AsciiClass

/-- The cause that an unanswered property query gives. -/
def propertyCause : PropertyError → Cause
  | .unknownProperty => .propertyUnknown
  | .unknownValue => .propertyValueUnknown

/-- The characters of a property class. -/
def propertySet (m : Modes) (pos : Nat) (query : PropertyQuery) :
    Except Fault CodeSet :=
  if !m.unicode then refuse .unicodeOff pos
  else
    match query.lookup with
    | .ok s => .ok (m.fold s)
    | .error e => refuse (propertyCause e) pos

/-- The complement, if asked for. Among bytes a complement holds some
that are not ASCII, and is refused. -/
def negate (m : Modes) (pos : Nat) (negated : Bool) (s : CodeSet) :
    Except Fault CodeSet :=
  if m.unicode then .ok (if negated then s.complChars else s)
  else
    let s := if negated then s.compl else s
    if s.below 0x80 then .ok s else refuse .invalidUtf8 pos

/-- The characters of a class that one escape stands for. -/
def shorthandSet (m : Modes) (pos : Nat) (negated : Bool) :
    Shorthand → Except Fault CodeSet
  | .digit =>
    negate m pos negated
      (if m.unicode then digitSet else AsciiClass.digit.members)
  | .space =>
    negate m pos negated
      (if m.unicode then spaceSet else AsciiClass.space.members)
  | .word =>
    negate m pos negated
      (if m.unicode then wordSet else AsciiClass.word.members)
  | .property query => (propertySet m pos query).bind (negate m pos negated)

-- ====================================================== bracketed classes

/-- The code point of a literal. Where Unicode is off, a byte beyond ASCII
is refused. -/
def literalCode (m : Modes) (l : Literal) : Except Fault Nat :=
  if !m.unicode && l.byte && 0x7F < l.char.toNat then refuse .invalidUtf8 l.pos
  else .ok l.char.toNat

/-- The code point of a literal in a class, where without Unicode only
ASCII is allowed. -/
def classCode (m : Modes) (l : Literal) : Except Fault Nat := do
  let c ← literalCode m l
  if !m.unicode && 0x7F < c then refuse .unicodeOff l.pos else return c

namespace ClassSet

/-- The result of an operator on two sets. -/
def combine : SetOp → CodeSet → CodeSet → CodeSet
  | .intersection, s, t => s.inter t
  | .difference, s, t => s.diff t
  | .symmetricDifference, s, t => s.symmDiff t

mutual

/-- The intervals that a set is made of, in any order. Case is folded
where a complement or an operator is formed. -/
def intervals (m : Modes) : ClassSet → Except Fault (List Interval)
  | .empty _ => .ok []
  | .literal l => do
    let c ← classCode m l
    return [⟨c, c⟩]
  | .range lo hi => do
    let a ← classCode m lo
    let b ← classCode m hi
    return [⟨a, b⟩]
  | .ascii pos negated kind => do
    return (← negate m pos negated (m.fold kind.members)).ranges
  | .shorthand pos negated kind => do
    return (← shorthandSet m pos negated kind).ranges
  | .bracketed pos negated body => do
    let rs ← body.intervals m
    return (← negate m pos negated (m.fold (.ofRanges rs))).ranges
  | .union _ items => intervalsOfAll m items
  | .binary _ op lhs rhs => do
    let a ← lhs.intervals m
    let b ← rhs.intervals m
    return (combine op (m.fold (.ofRanges a)) (m.fold (.ofRanges b))).ranges

/-- The intervals of several sets. -/
def intervalsOfAll (m : Modes) : List ClassSet → Except Fault (List Interval)
  | [] => .ok []
  | x :: rest => do
    let a ← x.intervals m
    let b ← intervalsOfAll m rest
    return a ++ b

end

end ClassSet

/-- The characters of a bracketed class. -/
def bracketSet (m : Modes) (pos : Nat) (negated : Bool) (body : ClassSet) :
    Except Fault CodeSet := do
  let rs ← body.intervals m
  negate m pos negated (m.fold (.ofRanges rs))

-- ============================================================== atoms

/-- What a dot matches. -/
def dotSet (m : Modes) : CodeSet :=
  if m.dotMatchesNewLine then CodeSet.empty.complChars
  else if m.crlf then (CodeSet.ofText "A D").complChars
  else (CodeSet.single 0xA).complChars

/-- A literal, with its other cases if case does not count. -/
def literalMatcher (m : Modes) (l : Literal) : Except Fault Matcher := do
  let c ← literalCode m l
  if m.caseInsensitive then return .ofSet (m.fold (.single c))
  else return .text [l.char]

/-- What an atom matches. -/
def Atom.matcher (m : Modes) : Atom → Except Fault Matcher
  | .literal l => literalMatcher m l
  | .shorthand pos negated kind => (shorthandSet m pos negated kind).map .ofSet
  | .assertion _ kind => .ok (.assertion kind (kind.isOnWords && m.unicode))

-- ============================================================= patterns

namespace Node

mutual

/-- What a pattern matches under the modes in force before it, and the
modes in force after it. -/
def matcher (m : Modes) : Node → Except Fault (Matcher × Modes)
  | .empty _ => .ok (.empty, m)
  | .flags _ changes => .ok (.empty, m.apply changes)
  | .dot pos =>
    if m.unicode then .ok (.ofSet (dotSet m), m) else refuse .invalidUtf8 pos
  | .atom a => do return (← a.matcher m, m)
  | .bracketed pos negated body => do
    return (.ofSet (← bracketSet m pos negated body), m)
  | .repetition _ count lazy body => do
    let (sub, after) ← body.matcher m
    return (.repeated count (lazy == after.swapGreed) sub, after)
  | .group _ kind body => do
    match kind with
    | .flagged changes => return ((← body.matcher (m.apply changes)).1, m)
    | _ => return (.capture (← body.matcher m).1, m)
  | .alternation _ branches => do
    let (subs, after) ← matchers m branches
    return (.ofChoice subs, after)
  | .concat _ items => do
    let (subs, after) ← matchers m items
    return (.ofSequence subs, after)

/-- The same for patterns side by side, from left to right. -/
def matchers (m : Modes) : List Node → Except Fault (List Matcher × Modes)
  | [] => .ok ([], m)
  | x :: rest => do
    let (sub, next) ← x.matcher m
    let (subs, after) ← matchers next rest
    return (sub :: subs, after)

end

end Node

end PatternCheck.Pattern
