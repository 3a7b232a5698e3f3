import PatternCheck.Pattern.Bracket
import PatternCheck.Pattern.Group
import PatternCheck.Pattern.Repeat

/-
Reading a whole pattern. A `State` is a place in the pattern with
everything that is still open there: the branches of the innermost
group, the groups around it, and the bracketed classes, innermost first.
`State.next` reads one item and `State.run` goes on to the end of the
pattern; it ends because every item takes at least one character
(`State.next_left_lt`).

The result, `Node.ofPattern`, is the syntax tree or the first fault.
-/

namespace PatternCheck.Pattern

-- ======================================================== open levels

/-- The alternatives of one group as far as they have been read: where
they begin, the finished ones (latest first), and the items of the
current one (latest first) with its place. -/
structure Level where
  pos : Nat
  done : List Node := []
  branchPos : Nat
  items : List Node := []
deriving Repr, Inhabited

namespace Level

/-- Nothing read yet, at `pos`. -/
def start (pos : Nat) : Level := { pos, branchPos := pos }

def push (l : Level) (n : Node) : Level := { l with items := n :: l.items }

/-- The current alternative as a node. -/
def branch (l : Level) : Node := .ofItems l.branchPos l.items.reverse

/-- Ends the current alternative; the next one begins at `pos`. -/
def nextBranch (l : Level) (pos : Nat) : Level :=
  { l with done := l.branch :: l.done, branchPos := pos, items := [] }

/-- Everything as one node. -/
def node (l : Level) : Node := .ofBranches l.pos (l.branch :: l.done).reverse

end Level

/-- A group whose closing parenthesis has not been read, with the level
around it and the mode to return to. -/
structure OpenGroup where
  pos : Nat
  kind : GroupKind
  outer : Level
  verbose : Bool
deriving Repr, Inhabited

-- ============================================================= states

/-- How far a pattern has been read. -/
structure State where
  cursor : Cursor
  verbose : Bool := false
  level : Level
  groups : List OpenGroup := []
  classes : List OpenClass := []
  names : List String := []
deriving Repr, Inhabited

/-- Reading either goes on or ends with a tree. -/
inductive Step where
  | more (s : State)
  | done (n : Node)
deriving Repr, Inhabited

namespace State

def start (pattern : List Char) : State :=
  { cursor := .start pattern, level := .start 0 }

/-- How many characters are left. -/
def left (s : State) : Nat := s.cursor.left

/-- Adds an item to the current branch and moves on. -/
def push (s : State) (n : Node) (after : Cursor) : State :=
  { s with cursor := after, level := s.level.push n }

-- ====================================================== outside brackets

/-- A group or a change of flags begins. -/
def openGroup (s : State) (c : Cursor) : Except Fault State :=
  match Opening.read s.verbose s.names c with
  | .error e => .error e
  | .ok (.setFlags changes, after) =>
    .ok { s.push (.flags c.pos changes) after with
          verbose := (FlagChanges.state? changes .verbose).getD s.verbose }
  | .ok (.group kind, after) =>
    let group : OpenGroup :=
      { pos := c.pos, kind, outer := s.level, verbose := s.verbose }
    let inside :=
      { s with
        cursor := after
        level := .start after.pos
        groups := group :: s.groups }
    match kind with
    | .capture => .ok inside
    | .named name => .ok { inside with names := name :: s.names }
    | .flagged changes =>
      .ok { inside with verbose :=
          (FlagChanges.state? changes .verbose).getD s.verbose }

/-- A group ends. -/
def closeGroup (s : State) (c : Cursor) : Except Fault State :=
  match s.groups with
  | [] => refuse .groupUnopened c.pos
  | g :: groups =>
    .ok { s with
          cursor := c.advance, verbose := g.verbose, groups
          level := g.outer.push (.group g.pos g.kind s.level.node) }

/-- Repeats the last item, which must be there and not be a change of
flags. The operator stands at `pos`. -/
def repeatLast (s : State) (pos : Nat) (read : Reading (Count × Bool)) :
    Except Fault State :=
  match s.level.items with
  | [] => refuse .nothingToRepeat pos
  | x :: items =>
    if x.isRepeatable then
      match read with
      | .error e => .error e
      | .ok ((count, lazy), after) =>
        let item := Node.repetition x.pos count lazy x
        .ok { s with
          cursor := after, level := { s.level with items := item :: items } }
    else refuse .nothingToRepeat pos

/-- A one-character repetition operator. -/
def simpleRepeat (count : Count) (c : Cursor) : Reading (Count × Bool) :=
  let (lazy, after) := readLazy c.advance
  .ok ((count, lazy), after)

/-- One item outside brackets. The cursor is past ignored text. -/
def nextOutside (s : State) (c : Cursor) : Except Fault Step :=
  match c.rest with
  | [] =>
    match s.groups with
    | [] => .ok (.done s.level.node)
    | g :: _ => refuse .groupUnclosed g.pos
  | '(' :: _ => (s.openGroup c).map .more
  | ')' :: _ => (s.closeGroup c).map .more
  | '|' :: _ =>
    let after := c.advance
    .ok (.more { s with
      cursor := after, level := s.level.nextBranch after.pos })
  | '[' :: _ =>
    match OpenClass.read s.verbose c with
    | .error e => .error e
    | .ok (o, after) => .ok (.more { s with cursor := after, classes := [o] })
  | '?' :: _ => (s.repeatLast c.pos (simpleRepeat ⟨0, some 1⟩ c)).map .more
  | '*' :: _ => (s.repeatLast c.pos (simpleRepeat ⟨0, none⟩ c)).map .more
  | '+' :: _ => (s.repeatLast c.pos (simpleRepeat ⟨1, none⟩ c)).map .more
  | '{' :: _ => (s.repeatLast c.pos (readCount s.verbose c)).map .more
  | '.' :: _ => .ok (.more (s.push (.dot c.pos) c.advance))
  | '^' :: _ =>
    .ok (.more (s.push (.atom (.assertion c.pos .lineStart)) c.advance))
  | '$' :: _ =>
    .ok (.more (s.push (.atom (.assertion c.pos .lineEnd)) c.advance))
  | _ =>
    match Atom.read s.verbose c with
    | .error e => .error e
    | .ok (a, after) => .ok (.more (s.push (.atom a) after))

-- ======================================================= inside brackets

/-- A class ends: it becomes an item of the class around it, or of the
pattern. -/
def closeClass (s : State) (o : OpenClass) (outer : List OpenClass)
    (after : Cursor) : State :=
  match outer with
  | p :: outer =>
    { s with cursor := after, classes := p.push o.close :: outer }
  | [] =>
    { s.push (.bracketed o.pos o.negated o.body) after with classes := [] }

/-- The operator between sets that begins with the two characters. -/
def setOp? : List Char → Option SetOp
  | '&' :: '&' :: _ => some .intersection
  | '-' :: '-' :: _ => some .difference
  | '~' :: '~' :: _ => some .symmetricDifference
  | _ => none

/-- One item inside the class `o`. The cursor is past ignored text. -/
def nextInside (s : State) (o : OpenClass) (outer : List OpenClass)
    (c : Cursor) : Except Fault State :=
  match c.rest with
  | [] => refuse .classUnclosed o.pos
  | '[' :: _ =>
    match readAscii? c with
    | some (item, after) =>
      .ok { s with cursor := after, classes := o.push item :: outer }
    | none =>
      match OpenClass.read s.verbose c with
      | .error e => .error e
      | .ok (inner, after) =>
        .ok { s with cursor := after, classes := inner :: o :: outer }
  | ']' :: _ => .ok (s.closeClass o outer c.advance)
  | _ =>
    match setOp? c.rest with
    | some op =>
      let after := c.advance.advance
      .ok { s with
        cursor := after, classes := o.operator op after.pos :: outer }
    | none =>
      match readItem s.verbose o.pos c with
      | .error e => .error e
      | .ok (item, after) =>
        .ok { s with cursor := after, classes := o.push item :: outer }

-- ============================================================== running

/-- Reads one item. -/
def next (s : State) : Except Fault Step :=
  let c := s.cursor.space s.verbose
  match s.classes with
  | [] => s.nextOutside c
  | o :: outer => (s.nextInside o outer c).map .more

/-- A group takes its parenthesis. -/
theorem openGroup_left_lt {s t : State} {c : Cursor} (ne : c.rest ≠ [])
    (h : s.openGroup c = .ok t) : t.left < c.left := by
  unfold openGroup at h
  split at h
  · cases h
  · next ho => cases h; exact Opening.read_left_lt ne ho
  · next ho =>
    have := Opening.read_left_lt ne ho
    dsimp only at h
    split at h <;> cases h <;> exact this

/-- So does its end. -/
theorem closeGroup_left_lt {s t : State} {c : Cursor} (ne : c.rest ≠ [])
    (h : s.closeGroup c = .ok t) : t.left < c.left := by
  unfold closeGroup at h
  split at h <;> cases h
  exact Cursor.advance_left_lt ne

/-- A repetition takes what its operator takes. -/
theorem repeatLast_left_lt {s t : State} {p : Nat} {c : Cursor}
    {read : Reading (Count × Bool)}
    (hr : ∀ {r}, read = .ok r → r.2.left < c.left)
    (h : s.repeatLast p read = .ok t) : t.left < c.left := by
  unfold repeatLast at h
  split at h
  · cases h
  · split at h
    · split at h
      · cases h
      · cases h; exact hr rfl
    · cases h

theorem simpleRepeat_left_lt {k : Count} {c : Cursor} (ne : c.rest ≠ [])
    {r : (Count × Bool) × Cursor} (h : simpleRepeat k c = .ok r) :
    r.2.left < c.left := by
  cases h
  exact Nat.lt_of_le_of_lt (readLazy_left_le _) (Cursor.advance_left_lt ne)

/-- Reading that goes on goes on to one state. -/
theorem map_more {x : Except Fault State} {t : State}
    (h : x.map Step.more = .ok (.more t)) : x = .ok t := by
  cases x <;> cases h
  rfl

/-- Outside brackets every item takes at least one character. -/
theorem nextOutside_left_lt {s t : State} {c : Cursor}
    (h : s.nextOutside c = .ok (.more t)) : t.left < c.left := by
  unfold nextOutside at h
  split at h
  · split at h <;> cases h
  all_goals first
    | (next hc =>
        have ne : c.rest ≠ [] := by simp [hc]
        first
        | exact openGroup_left_lt ne (map_more h)
        | exact closeGroup_left_lt ne (map_more h)
        | exact repeatLast_left_lt (simpleRepeat_left_lt ne) (map_more h)
        | exact repeatLast_left_lt (readCount_left_lt ne) (map_more h)
        | (cases h; exact Cursor.advance_left_lt ne)
        | (split at h
           · cases h
           · next hr => cases h; exact OpenClass.read_left_lt ne hr))
    | (split at h
       · cases h
       · next hr => cases h; exact Atom.read_left_lt hr)

theorem closeClass_left (s : State) (o : OpenClass) (outer : List OpenClass)
    (c : Cursor) : (s.closeClass o outer c).left = c.left := by
  unfold closeClass
  split <;> rfl

/-- So it does inside. -/
theorem nextInside_left_lt {s t : State} {o : OpenClass}
    {outer : List OpenClass} {c : Cursor}
    (h : s.nextInside o outer c = .ok t) : t.left < c.left := by
  unfold nextInside at h
  split at h
  · cases h
  · next hc =>
    have ne : c.rest ≠ [] := by simp [hc]
    split at h
    · next ha => cases h; exact readAscii?_left_lt ha
    · split at h
      · cases h
      · next hr => cases h; exact OpenClass.read_left_lt ne hr
  · next hc =>
    have ne : c.rest ≠ [] := by simp [hc]
    cases h
    rw [closeClass_left]
    exact Cursor.advance_left_lt ne
  · split at h
    · next op hop =>
      have ne : c.rest ≠ [] := by
        intro hnil; rw [hnil] at hop; cases hop
      cases h
      exact Nat.lt_of_le_of_lt (Cursor.advance_left_le _)
        (Cursor.advance_left_lt ne)
    · split at h
      · cases h
      · next hr => cases h; exact readItem_left_lt hr

/-- Every item takes at least one character. -/
theorem next_left_lt {s t : State} (h : s.next = .ok (.more t)) :
    t.left < s.left := by
  unfold next at h
  refine Nat.lt_of_lt_of_le ?_ (Cursor.space_left_le s.verbose s.cursor)
  dsimp only at h
  split at h
  · exact nextOutside_left_lt h
  · exact nextInside_left_lt (map_more h)

/-- Reads to the end of the pattern. -/
def run (s : State) : Except Fault Node :=
  match _h : s.next with
  | .error e => .error e
  | .ok (.done n) => .ok n
  | .ok (.more t) => run t
termination_by s.left
decreasing_by exact next_left_lt _h

/-- A fault ends the run. -/
theorem run_of_error {s : State} {f : Fault} (h : s.next = .error f) :
    s.run = .error f := by
  rw [run]
  split <;> simp_all

/-- So does the end of the pattern. -/
theorem run_of_done {s : State} {n : Node} (h : s.next = .ok (.done n)) :
    s.run = .ok n := by
  rw [run]
  split <;> simp_all

/-- After an item the run goes on. -/
theorem run_of_more {s t : State} (h : s.next = .ok (.more t)) :
    s.run = t.run := by
  rw [run]
  split <;> simp_all

end State

/-- The syntax tree of a pattern, or its first fault. -/
def Node.ofPattern (pattern : List Char) : Except Fault Node :=
  (State.start pattern).run

end PatternCheck.Pattern
