import PatternCheck.Proofs.Pattern.Moved.Item

/-
Reading a whole pattern further on. Besides the cursor a state of the
reader has places in everything that is open; they all move with it
(`State.moved`). One item read further on is the item, further on
(`State.next_moved`), and so is all that is read (`State.run_moved`).
-/

namespace PatternCheck.Pattern

variable {k : Nat}

-- =============================================================== trees

namespace Node

mutual

def moved (k : Nat) : Node → Node
  | empty p => empty (p + k)
  | flags p changes => flags (p + k) changes
  | dot p => dot (p + k)
  | atom a => atom (a.moved k)
  | bracketed p negated body => bracketed (p + k) negated (body.moved k)
  | repetition p count lazy body =>
    repetition (p + k) count lazy (body.moved k)
  | group p kind body => group (p + k) kind (body.moved k)
  | alternation p branches => alternation (p + k) (allMoved k branches)
  | concat p items => concat (p + k) (allMoved k items)

def allMoved (k : Nat) : List Node → List Node
  | [] => []
  | x :: rest => x.moved k :: allMoved k rest

end

/-- Several trees move one by one. -/
theorem allMoved_eq_map (items : List Node) :
    allMoved k items = items.map (moved k) := by
  induction items with
  | nil => rfl
  | cons x rest ih => rw [allMoved, ih]; rfl

/-- The place of a tree is that of its topmost node, and moves. -/
theorem pos_moved (x : Node) : (x.moved k).pos = x.pos + k := by
  cases x with
  | atom a => exact a.pos_moved
  | _ => simp only [moved, pos]

/-- Whether something can be repeated is seen from its kind. -/
theorem isRepeatable_moved (x : Node) :
    (x.moved k).isRepeatable = x.isRepeatable := by
  cases x <;> simp only [moved, isRepeatable]

/-- Items are put together in the same way, whether there are none, one or
more of them. -/
theorem ofItems_moved (n : Nat) (items : List Node) :
    ofItems (n + k) (items.map (moved k)) = (ofItems n items).moved k := by
  match items with
  | [] => simp only [List.map_nil, ofItems, moved]
  | [x] => rfl
  | x :: y :: rest =>
      simp only [List.map_cons, ofItems, moved, allMoved, allMoved_eq_map]

/-- So are alternatives. -/
theorem ofBranches_moved (n : Nat) (branches : List Node) :
    ofBranches (n + k) (branches.map (moved k))
      = (ofBranches n branches).moved k := by
  match branches with
  | [] => simp only [List.map_nil, ofBranches, moved]
  | [x] => rfl
  | x :: y :: rest =>
      simp only [List.map_cons, ofBranches, moved, allMoved, allMoved_eq_map]

end Node

-- ============================================================== states

namespace Level

def moved (k : Nat) (l : Level) : Level where
  pos := l.pos + k
  done := l.done.map (Node.moved k)
  branchPos := l.branchPos + k
  items := l.items.map (Node.moved k)

/-- The alternative that is being read has moved with its items. -/
theorem branch_moved (l : Level) : (l.moved k).branch = l.branch.moved k := by
  unfold branch
  rw [← Node.ofItems_moved, List.map_reverse]
  rfl

/-- The next one begins further on. -/
theorem nextBranch_moved (l : Level) (n : Nat) :
    (l.moved k).nextBranch (n + k) = (l.nextBranch n).moved k := by
  unfold nextBranch
  rw [branch_moved]
  rfl

theorem node_moved (l : Level) : (l.moved k).node = l.node.moved k := by
  unfold node
  rw [← Node.ofBranches_moved, List.map_reverse, List.map_cons, branch_moved]
  rfl

end Level

def OpenGroup.moved (k : Nat) (g : OpenGroup) : OpenGroup :=
  { g with pos := g.pos + k, outer := g.outer.moved k }

def State.moved (k : Nat) (s : State) : State where
  cursor := s.cursor.moved k
  verbose := s.verbose
  level := s.level.moved k
  groups := s.groups.map (OpenGroup.moved k)
  classes := s.classes.map (OpenClass.moved k)
  names := s.names

def Step.moved (k : Nat) : Step → Step
  | .more s => .more (s.moved k)
  | .done n => .done (n.moved k)

namespace State

variable {s : State} {c : Cursor}

theorem map_more_moved {x : Except Fault State} :
    (Outcome.moved k (moved k) x).map Step.more
      = Outcome.moved k (Step.moved k) (x.map .more) :=
  Outcome.moved_map fun _ => rfl

-- ====================================================== outside brackets

/-- The group that is opened is remembered by its place, which has moved. -/
theorem openGroup_moved (s : State) (c : Cursor) :
    (s.moved k).openGroup (c.moved k)
      = Outcome.moved k (moved k) (s.openGroup c) := by
  unfold openGroup
  have opening :
      Opening.read (s.moved k).verbose (s.moved k).names (c.moved k) =
        (Opening.read s.verbose s.names c).moved k id :=
    Opening.read_moved s.names c
  rw [opening]
  cases Opening.read s.verbose s.names c with
  | error e => rfl
  | ok r =>
      obtain ⟨opening, after⟩ := r
      cases opening with
      | setFlags changes => rfl
      | group kind => cases kind <;> rfl

/-- A group that is closed stands where it was opened; a parenthesis that
closes none is the fault, further on. -/
theorem closeGroup_moved (s : State) (c : Cursor) :
    (s.moved k).closeGroup (c.moved k)
      = Outcome.moved k (moved k) (s.closeGroup c) := by
  obtain ⟨cursor, verbose, level, groups, classes, names⟩ := s
  cases groups with
  | nil => rfl
  | cons g groups =>
      unfold closeGroup
      rw [Cursor.advance_moved]
      simp only [moved, List.map_cons, Level.node_moved]
      rfl

/-- What is repeated is the last item, moved, and the repetition stands where
it does. -/
theorem repeatLast_moved (s : State) (n : Nat)
    (read : Reading (Count × Bool)) :
    (s.moved k).repeatLast (n + k) (read.moved k id) =
      Outcome.moved k (moved k) (s.repeatLast n read) := by
  obtain ⟨cursor, verbose, level, groups, classes, names⟩ := s
  obtain ⟨pos, done, branchPos, items⟩ := level
  cases items with
  | nil => rfl
  | cons x items =>
      unfold repeatLast
      simp only [moved, Level.moved, List.map_cons, Node.isRepeatable_moved,
        Node.pos_moved]
      split
      · cases read with
        | error e => rfl
        | ok r => rfl
      · rfl

theorem simpleRepeat_moved (count : Count) (c : Cursor) :
    simpleRepeat count (c.moved k) = (simpleRepeat count c).moved k id := by
  unfold simpleRepeat
  rw [Cursor.advance_moved, readLazy_moved]
  rfl

/-- The first character decides what the next item is. -/
theorem nextOutside_moved (s : State) (c : Cursor) :
    (s.moved k).nextOutside (c.moved k)
      = Outcome.moved k (Step.moved k) (s.nextOutside c) := by
  have verbose : (s.moved k).verbose = s.verbose := rfl
  unfold nextOutside
  simp only [Cursor.moved_rest, Cursor.moved_pos, Cursor.advance_moved,
    verbose, openGroup_moved, closeGroup_moved, OpenClass.read_moved,
    Atom.read_moved, simpleRepeat_moved, readCount_moved, repeatLast_moved,
    map_more_moved]
  split
  · obtain ⟨cursor, verbose, level, groups, classes, names⟩ := s
    cases groups with
    | nil => exact congrArg (fun n => Except.ok (Step.done n)) level.node_moved
    | cons g groups => rfl
  · rfl
  · rfl
  · have level : (s.moved k).level.nextBranch (c.advance.pos + k) =
        (s.level.nextBranch c.advance.pos).moved k :=
          s.level.nextBranch_moved _
    rw [level]
    rfl
  · cases OpenClass.read s.verbose c with
    | error e => rfl
    | ok r => rfl
  · rfl
  · rfl
  · rfl
  · rfl
  · rfl
  · rfl
  · rfl
  · cases Atom.read s.verbose c with
    | error e => rfl
    | ok r => rfl

-- ======================================================= inside brackets

/-- A class that ends goes into the one around it, or into the pattern. -/
theorem closeClass_moved (s : State) (o : OpenClass) (outer : List OpenClass)
    (after : Cursor) :
    (s.moved k).closeClass (o.moved k) (outer.map (OpenClass.moved k))
      (after.moved k) = (s.closeClass o outer after).moved k := by
  cases outer with
  | nil =>
      unfold closeClass
      rw [OpenClass.body_moved]
      rfl
  | cons p outer =>
      unfold closeClass
      simp only [List.map_cons, OpenClass.close_moved, OpenClass.push_moved]
      rfl

/-- The first characters decide what the next item of a class is. -/
theorem nextInside_moved (s : State) (o : OpenClass) (outer : List OpenClass)
    (c : Cursor) :
    (s.moved k).nextInside (o.moved k) (outer.map (OpenClass.moved k))
      (c.moved k) = Outcome.moved k (moved k) (s.nextInside o outer c) := by
  have verbose : (s.moved k).verbose = s.verbose := rfl
  have opened : (o.moved k).pos = o.pos + k := rfl
  unfold nextInside
  simp only [Cursor.moved_rest, Cursor.advance_moved, verbose, opened,
    readAscii?_moved, OpenClass.read_moved, readItem_moved, closeClass_moved,
    Cursor.moved_pos]
  split
  · rfl
  · cases readAscii? c with
    | some r => rfl
    | none =>
        cases OpenClass.read s.verbose c with
        | error e => rfl
        | ok r => rfl
  · rfl
  · split
    · rw [OpenClass.operator_moved]
      rfl
    · cases readItem s.verbose o.pos c with
      | error e => rfl
      | ok r => rfl

-- ============================================================== running

/-- One item further on is the item, further on. -/
theorem next_moved (s : State) :
    (s.moved k).next = Outcome.moved k (Step.moved k) s.next := by
  have space :
      (s.moved k).cursor.space (s.moved k).verbose
        = (s.cursor.space s.verbose).moved k :=
    s.cursor.space_moved
  have classes : (s.moved k).classes = s.classes.map (OpenClass.moved k) := rfl
  unfold next
  rw [space, classes]
  cases s.classes with
  | nil => exact nextOutside_moved s _
  | cons o outer =>
      exact (congrArg _ (nextInside_moved s o outer _)).trans map_more_moved

/-- All that is read further on is what is read, further on. -/
theorem run_moved (s : State) :
    (s.moved k).run = Outcome.moved k (Node.moved k) s.run := by
  fun_induction State.run s with
  | case1 s e he => 
      refine run_of_error ?_
      rw [next_moved, he]
      rfl
  | case2 s n he => 
      refine run_of_done ?_
      rw [next_moved, he]
      rfl
  | case3 s t he ih =>
      rw [← ih]
      refine run_of_more ?_
      rw [next_moved, he]
      rfl

end State

end PatternCheck.Pattern
