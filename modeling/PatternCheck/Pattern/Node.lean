import PatternCheck.Unicode.Property

/-
The syntax tree of a pattern. Every node knows where in the pattern it
starts, as a count of bytes from the beginning; a diagnostic reports the
place of a node as a count of characters.

Bracketed classes have a tree of their own, `ClassSet`, since they nest
and combine by set operators.
-/

namespace PatternCheck.Pattern

open Unicode (PropertyQuery)

-- ============================================================== leaves

/-- A character that stands for itself. `byte` marks the spelling by
exactly two hexadecimal digits, which names a byte where Unicode is
switched off. -/
structure Literal where
  pos : Nat
  char : Char
  byte : Bool := false
deriving Repr, DecidableEq, Inhabited

/-- A class of characters that one escape stands for. -/
inductive Shorthand where
  | digit
  | space
  | word
  | property (query : PropertyQuery)
deriving Repr, DecidableEq, Inhabited

/-- A condition on the place between two characters. -/
inductive Assertion where
  | lineStart
  | lineEnd
  | textStart
  | textEnd
  | wordBoundary
  | notWordBoundary
  | wordStart
  | wordEnd
  | wordStartHalf
  | wordEndHalf
deriving Repr, DecidableEq, Inhabited

/-- Whether a condition is about words. -/
def Assertion.isOnWords : Assertion → Bool
  | lineStart | lineEnd | textStart | textEnd => false
  | _ => true

/-- What a single character or a single escape stands for. -/
inductive Atom where
  | literal (l : Literal)
  | shorthand (pos : Nat) (negated : Bool) (kind : Shorthand)
  | assertion (pos : Nat) (kind : Assertion)
deriving Repr, DecidableEq, Inhabited

namespace Atom

def pos : Atom → Nat
  | literal l => l.pos
  | shorthand p _ _ => p
  | assertion p _ => p

end Atom

-- ============================================================== flags

/-- A switch of the pattern language. -/
inductive Flag where
  | caseInsensitive
  | multiLine
  | dotMatchesNewLine
  | swapGreed
  | unicode
  | crlf
  | verbose
deriving Repr, DecidableEq, Inhabited

namespace Flag

/-- The letter by which a pattern names the flag. -/
def letter : Flag → Char
  | caseInsensitive => 'i'
  | multiLine => 'm'
  | dotMatchesNewLine => 's'
  | swapGreed => 'U'
  | unicode => 'u'
  | crlf => 'R'
  | verbose => 'x'

/-- The flag with a given letter. -/
def ofLetter? : Char → Option Flag
  | 'i' => some caseInsensitive
  | 'm' => some multiLine
  | 's' => some dotMatchesNewLine
  | 'U' => some swapGreed
  | 'u' => some unicode
  | 'R' => some crlf
  | 'x' => some verbose
  | _ => none

/-- Each flag has a letter of its own. -/
theorem ofLetter?_letter (f : Flag) : ofLetter? f.letter = some f := by
  cases f <;> rfl

end Flag

/-- Flags set (`true`) or cleared, in the order written. -/
abbrev FlagChanges := List (Flag × Bool)

/-- What a list of changes does to one flag, if it names it. -/
def FlagChanges.state? (changes : FlagChanges) (f : Flag) : Option Bool :=
  (changes.find? (·.1 = f)).map (·.2)

-- ======================================================== class trees

/-- A named class of ASCII characters. -/
inductive AsciiClass where
  | alnum | alpha | ascii | blank | cntrl | digit | graph | lower | print
    | punct | space
  | upper | word | xdigit
deriving Repr, DecidableEq, Inhabited

namespace AsciiClass

/-- The class with a given name. -/
def ofName? : String → Option AsciiClass
  | "alnum" => some alnum
  | "alpha" => some alpha
  | "ascii" => some ascii
  | "blank" => some blank
  | "cntrl" => some cntrl
  | "digit" => some digit
  | "graph" => some graph
  | "lower" => some lower
  | "print" => some print
  | "punct" => some punct
  | "space" => some space
  | "upper" => some upper
  | "word" => some word
  | "xdigit" => some xdigit
  | _ => none

end AsciiClass

/-- An operator between sets inside brackets. -/
inductive SetOp where
  | intersection
  | difference
  | symmetricDifference
deriving Repr, DecidableEq, Inhabited

/-- What stands between brackets. -/
inductive ClassSet where
  /-- Nothing, as on the left of an operator that comes first. -/
  | empty (pos : Nat)
  | literal (l : Literal)
  | range (lo hi : Literal)
  | ascii (pos : Nat) (negated : Bool) (kind : AsciiClass)
  | shorthand (pos : Nat) (negated : Bool) (kind : Shorthand)
  | bracketed (pos : Nat) (negated : Bool) (body : ClassSet)
  /-- Two items or more, side by side. -/
  | union (pos : Nat) (items : List ClassSet)
  | binary (pos : Nat) (op : SetOp) (lhs rhs : ClassSet)
deriving Repr, Inhabited

namespace ClassSet

def pos : ClassSet → Nat
  | empty p => p
  | literal l => l.pos
  | range lo _ => lo.pos
  | ascii p _ _ => p
  | shorthand p _ _ => p
  | bracketed p _ _ => p
  | union p _ => p
  | binary p _ _ _ => p

/-- Items side by side as one set; `pos` is where the empty one stands. -/
def ofItems (pos : Nat) : List ClassSet → ClassSet
  | [] => empty pos
  | [x] => x
  | x :: y :: rest => union x.pos (x :: y :: rest)

end ClassSet

-- ====================================================== pattern trees

/-- How often a repetition asks for its operand. -/
structure Count where
  min : Nat
  max : Option Nat
deriving Repr, DecidableEq, Inhabited

/-- What kind of parentheses a group has. -/
inductive GroupKind where
  | capture
  | named (name : String)
  | flagged (changes : FlagChanges)
deriving Repr, DecidableEq, Inhabited

/-- A pattern. -/
inductive Node where
  | empty (pos : Nat)
  | flags (pos : Nat) (changes : FlagChanges)
  | dot (pos : Nat)
  | atom (a : Atom)
  | bracketed (pos : Nat) (negated : Bool) (body : ClassSet)
  | repetition (pos : Nat) (count : Count) (lazy : Bool) (body : Node)
  | group (pos : Nat) (kind : GroupKind) (body : Node)
  /-- Two branches or more. -/
  | alternation (pos : Nat) (branches : List Node)
  /-- Two items or more. -/
  | concat (pos : Nat) (items : List Node)
deriving Repr, Inhabited

namespace Node

def pos : Node → Nat
  | empty p => p
  | flags p _ => p
  | dot p => p
  | atom a => a.pos
  | bracketed p _ _ => p
  | repetition p _ _ _ => p
  | group p _ _ => p
  | alternation p _ => p
  | concat p _ => p

/-- Whether a repetition operator may follow. -/
def isRepeatable : Node → Bool
  | empty _ => false
  | flags _ _ => false
  | _ => true

/-- Items one after the other as one node, started at `pos`. -/
def ofItems (pos : Nat) : List Node → Node
  | [] => empty pos
  | [x] => x
  | items => concat pos items

/-- Branches as one node, started at `pos`. -/
def ofBranches (pos : Nat) : List Node → Node
  | [] => empty pos
  | [x] => x
  | branches => alternation pos branches

end Node

end PatternCheck.Pattern
