import PatternCheck.Proofs.Pattern.Located.Item

/-
Reading a whole pattern stays on it. `State.Within` is what every state
of the reader satisfies: its cursor is on the pattern, all that has been
read has a place, and the groups and classes that are open were opened
by a parenthesis or a bracket at their place. One item keeps it
(`State.next_located`), hence so does the whole run, and the tree that
comes out has a place for every node (`Node.ofPattern_located`).
-/

namespace PatternCheck.Pattern

variable {p : List Char}

-- =============================================================== trees

namespace Node

mutual

/-- Every node of the tree stands at a place of the pattern. -/
def Within (p : List Char) : Node → Prop
  | .empty n => IsPlace p n
  | .flags n _ => IsPlace p n
  | .dot n => IsPlace p n
  | .atom a => IsPlace p a.pos
  | .bracketed n _ body => IsPlace p n ∧ body.Within p
  | .repetition n _ _ body => IsPlace p n ∧ body.Within p
  | .group n _ body => IsPlace p n ∧ body.Within p
  | .alternation n branches => IsPlace p n ∧ AllWithin p branches
  | .concat n items => IsPlace p n ∧ AllWithin p items

/-- The same for several trees. -/
def AllWithin (p : List Char) : List Node → Prop
  | [] => True
  | x :: rest => x.Within p ∧ AllWithin p rest

end

/-- Several trees stand on the pattern if each of them does. -/
theorem allWithin_iff {items : List Node} :
    AllWithin p items ↔ ∀ x ∈ items, x.Within p := by
  induction items with
  | nil => simp [AllWithin]
  | cons x rest ih => simp [AllWithin, ih]

/-- The place of a tree is that of its topmost node. -/
theorem Within.isPlace {x : Node} (h : x.Within p) : IsPlace p x.pos := by
  cases x with
  | empty n => exact h
  | flags n changes => exact h
  | dot n => exact h
  | atom a => exact h
  | bracketed n negated body => exact h.1
  | repetition n count lazy body => exact h.1
  | group n kind body => exact h.1
  | alternation n branches => exact h.1
  | concat n items => exact h.1

/-- A sequence stands at a place of its own, a single item at the place of the
item. -/
theorem ofItems_within {n : Nat} {items : List Node} (hn : IsPlace p n)
    (hi : ∀ x ∈ items, x.Within p) : (ofItems n items).Within p := by
  match items with
  | [] => exact hn
  | [x] => exact hi x (by simp)
  | x :: y :: rest => exact ⟨hn, allWithin_iff.2 hi⟩

/-- The same for alternatives. -/
theorem ofBranches_within {n : Nat} {branches : List Node} (hn : IsPlace p n)
    (hb : ∀ x ∈ branches, x.Within p) : (ofBranches n branches).Within p := by
  match branches with
  | [] => exact hn
  | [x] => exact hb x (by simp)
  | x :: y :: rest => exact ⟨hn, allWithin_iff.2 hb⟩

end Node

-- ============================================================== levels

/-- All that has been read of a level has a place. -/
structure Level.Within (p : List Char) (l : Level) : Prop where
  pos : IsPlace p l.pos
  done : ∀ x ∈ l.done, x.Within p
  branchPos : IsPlace p l.branchPos
  items : ∀ x ∈ l.items, x.Within p

namespace Level.Within

variable {l : Level}

/-- A level begins with nothing on it. -/
theorem start {n : Nat} (h : IsPlace p n) : (Level.start n).Within p where
  pos := h
  done := by simp [Level.start]
  branchPos := h
  items := by simp [Level.start]

theorem withItems {items : List Node} (h : l.Within p)
    (hi : ∀ x ∈ items, x.Within p) : Level.Within p { l with items } where
  pos := h.pos
  done := h.done
  branchPos := h.branchPos
  items := hi

/-- A level may be given one item more. -/
theorem push {x : Node} (h : l.Within p) (hx : x.Within p) :
    (l.push x).Within p := by
  refine h.withItems fun y hy => ?_
  rcases List.mem_cons.1 hy with rfl | hy
  · exact hx
  · exact h.items y hy

/-- The alternative that is being read stands on the pattern. -/
theorem branch (h : l.Within p) : l.branch.Within p :=
  Node.ofItems_within h.branchPos (by simpa using h.items)

/-- The next alternative begins at a place of the pattern. -/
theorem nextBranch {n : Nat} (h : l.Within p) (hn : IsPlace p n) :
    (l.nextBranch n).Within p where
  pos := h.pos
  done := by
    intro x hx
    rcases List.mem_cons.1 hx with rfl | hx
    · exact h.branch
    · exact h.done x hx
  branchPos := hn
  items := by simp [Level.nextBranch]

/-- All alternatives together stand on the pattern. -/
theorem node (h : l.Within p) : l.node.Within p := by
  refine Node.ofBranches_within h.pos fun x hx => ?_
  rcases List.mem_cons.1 (List.mem_reverse.1 hx) with rfl | hx
  · exact h.branch
  · exact h.done x hx

end Level.Within

/-- A group that is still open was opened by a parenthesis. -/
structure OpenGroup.Within (p : List Char) (g : OpenGroup) : Prop where
  opened : HasMark p g.pos '('
  outer : g.outer.Within p

-- ============================================================== states

/-- How far a pattern has been read, all of it at places of the pattern. -/
structure State.Within (p : List Char) (s : State) : Prop where
  cursor : s.cursor.On p
  level : s.level.Within p
  groups : ∀ g ∈ s.groups, g.Within p
  classes : ∀ o ∈ s.classes, o.Within p

/-- What a step comes to has its places in the pattern. -/
def Step.Within (p : List Char) : Step → Prop
  | .more s => s.Within p
  | .done n => n.Within p

namespace State

variable {s : State} {c : Cursor}

/-- Before anything is read, nothing is off the pattern. -/
theorem start_within (p : List Char) : (State.start p).Within p where
  cursor := .start p
  level := .start (Cursor.On.start p).isPlace
  groups := by simp [State.start]
  classes := by simp [State.start]

/-- An item that was read is added, and the cursor moves on. -/
theorem Within.push {x : Node} {after : Cursor} (h : s.Within p)
    (hx : x.Within p) (ha : after.On p) : (s.push x after).Within p where
  cursor := ha
  level := h.level.push hx
  groups := h.groups
  classes := h.classes

/-- The state inside a group that has just been opened. -/
theorem Within.inside {kind : GroupKind} {after : Cursor} {n : Nat}
    {verbose before : Bool} {names : List String} (h : s.Within p)
    (ho : HasMark p n '(') (ha : after.On p) :
    State.Within p { s with
      cursor := after, verbose, level := .start after.pos, names
      groups :=
        { pos := n, kind, outer := s.level, verbose := before }
          :: s.groups } where
  cursor := ha
  level := .start ha.isPlace
  groups := by
    intro g hg
    rcases List.mem_cons.1 hg with rfl | hg
    · exact ⟨ho, h.level⟩
    · exact h.groups g hg
  classes := h.classes

/-- A group is remembered by the parenthesis that opens it. -/
theorem openGroup_located {rest : List Char} (h : s.Within p)
    (hr : c.rest = '(' :: rest) (hc : c.On p) :
    Located p (State.Within p) (s.openGroup c) := by
  have opening : Read p (fun _ => True) (Opening.read s.verbose s.names c) :=
    Opening.read_located hr hc
  unfold openGroup
  split
  · next ho => exact opening.of_error ho
  · next changes after ho =>
      have pushed :=
        h.push (x := .flags c.pos changes) hc.isPlace (opening.of_ok ho).2
      exact ⟨pushed.cursor, pushed.level, pushed.groups, pushed.classes⟩
  · next kind after ho =>
      have after := (opening.of_ok ho).2
      dsimp only
      split <;> exact h.inside (hc.hasMark hr) after

/-- A group that is closed stands at the parenthesis that opened it. One that
closes nothing is the mark of the fault. -/
theorem closeGroup_located {rest : List Char} (h : s.Within p)
    (hr : c.rest = ')' :: rest) (hc : c.On p) :
    Located p (State.Within p) (s.closeGroup c) := by
  unfold closeGroup
  split
  · exact .refuse_mark (hc.hasMark hr) (by decide)
  · next g groups hg =>
      have group := h.groups g (by simp [hg])
      refine ⟨hc.advance,
        group.outer.push ⟨group.opened.isPlace, h.level.node⟩, ?_, h.classes⟩
      intro g' hg'
      exact h.groups g' (by simp [hg, hg'])

/-- With nothing to repeat, the operator is to blame, and it is a mark of that
fault. -/
theorem repeatLast_located {x : Char} {rest : List Char}
    {read : Reading (Count × Bool)} (h : s.Within p) (hr : c.rest = x :: rest)
    (hx : x ∈ Cause.marks .nothingToRepeat) (hc : c.On p)
    (hread : Read p (fun _ => True) read) :
    Located p (State.Within p) (s.repeatLast c.pos read) := by
  have mark := hc.hasMark hr
  unfold repeatLast
  split
  · exact .refuse_mark mark hx
  · next last items hi =>
      have last_within := h.level.items last (by simp [hi])
      split
      · split
        · exact hread
        · refine ⟨hread.2, h.level.withItems fun y hy => ?_, h.groups,
            h.classes⟩
          rcases List.mem_cons.1 hy with rfl | hy
          · exact ⟨last_within.isPlace, last_within⟩
          · exact h.level.items y (by simp [hi, hy])
      · exact .refuse_mark mark hx

/-- One item outside brackets, by its first character. At the end of the
pattern the parenthesis of the innermost open group is to blame. -/
theorem nextOutside_located (h : s.Within p) (hc : c.On p) :
    Located p (Step.Within p) (s.nextOutside c) := by
  unfold nextOutside
  split
  · split
    · exact h.level.node
    · next g groups hg =>
        exact .refuse_mark (h.groups g (by simp [hg])).opened (by decide)
  · next hr => exact (openGroup_located h hr hc).map fun _ ht => ht
  · next hr => exact (closeGroup_located h hr hc).map fun _ ht => ht
  · exact ⟨hc.advance, h.level.nextBranch hc.advance.isPlace, h.groups,
      h.classes⟩
  · next hr =>
      have opened := OpenClass.read_located (v := s.verbose) hr hc
      split
      · next he => exact opened.of_error he
      · next o after he =>
          obtain ⟨ho, ha⟩ := opened.of_ok he
          exact ⟨ha, h.level, h.groups, by simpa using ho⟩
  · next hr =>
      exact (repeatLast_located h hr (by decide) hc
        (simpleRepeat_located hc)).map fun _ ht => ht
  · next hr =>
      exact (repeatLast_located h hr (by decide) hc
        (simpleRepeat_located hc)).map fun _ ht => ht
  · next hr =>
      exact (repeatLast_located h hr (by decide) hc
        (simpleRepeat_located hc)).map fun _ ht => ht
  · next hr =>
      exact (repeatLast_located h hr (by decide) hc (readCount_located hc)).map
        fun _ ht => ht
  · exact h.push hc.isPlace hc.advance
  · exact h.push hc.isPlace hc.advance
  · exact h.push hc.isPlace hc.advance
  · have atom := Atom.read_located (v := s.verbose) hc
    split
    · next he => exact atom.of_error he
    · next a after he =>
        obtain ⟨ha, hafter⟩ := atom.of_ok he
        exact h.push ha hafter

/-- A class that ends stands at the bracket that opened it. -/
theorem closeClass_within {o : OpenClass} {outer : List OpenClass}
    {after : Cursor} (h : s.Within p) (ho : o.Within p)
    (hout : ∀ o' ∈ outer, o'.Within p) (ha : after.On p) :
    (s.closeClass o outer after).Within p := by
  unfold closeClass
  split
  · next q outer =>
      refine ⟨ha, h.level, h.groups, fun o' ho' => ?_⟩
      rcases List.mem_cons.1 ho' with rfl | ho'
      · exact (hout q (by simp)).push ho.close
      · exact hout o' (by simp [ho'])
  · exact ⟨ha, h.level.push ⟨ho.opened.isPlace, ho.body⟩, h.groups, by simp⟩

/-- One item inside brackets. At the end of the pattern the bracket of the
innermost open class is to blame. -/
theorem nextInside_located {o : OpenClass} {outer : List OpenClass}
    (h : s.Within p) (hs : s.classes = o :: outer) (hc : c.On p) :
    Located p (State.Within p) (s.nextInside o outer c) := by
  have ho : o.Within p := h.classes o (by simp [hs])
  have hout : ∀ o' ∈ outer, o'.Within p :=
    fun o' ho' => h.classes o' (by simp [hs, ho'])
  -- whatever becomes of the innermost class, those around it stay
  have go : ∀ {q : OpenClass} {after : Cursor}, q.Within p → after.On p →
      State.Within p { s with cursor := after, classes := q :: outer } := by
    intro q after hq ha
    refine ⟨ha, h.level, h.groups, fun o' ho' => ?_⟩
    rcases List.mem_cons.1 ho' with rfl | ho'
    · exact hq
    · exact hout o' ho'
  unfold nextInside
  split
  · exact .refuse_mark ho.opened (by decide)
  · next hr =>
      split
      · next item after ha =>
          obtain ⟨hi, ha⟩ := readAscii?_within hc ha
          exact go (ho.push hi) ha
      · have opened := OpenClass.read_located (v := s.verbose) hr hc
        split
        · next he => exact opened.of_error he
        · next inner after he =>
            obtain ⟨hi, ha⟩ := opened.of_ok he
            refine ⟨ha, h.level, h.groups, fun o' ho' => ?_⟩
            rcases List.mem_cons.1 ho' with rfl | ho'
            · exact hi
            · exact h.classes o' (hs ▸ ho')
  · exact closeClass_within h ho hout hc.advance
  · split
    · have after := hc.advance.advance
      exact go (ho.operator after.isPlace) after
    · have item := readItem_located (v := s.verbose) ho.opened hc
      split
      · next he => exact item.of_error he
      · next x after he =>
          obtain ⟨hx, ha⟩ := item.of_ok he
          exact go (ho.push hx) ha

/-- One item keeps all places in the pattern. -/
theorem next_located (h : s.Within p) : Located p (Step.Within p) s.next := by
  have hc := h.cursor.space (v := s.verbose)
  unfold next
  dsimp only
  split
  · exact nextOutside_located h hc
  · next o outer hs => exact (nextInside_located h hs hc).map fun _ ht => ht

/-- Reading to the end keeps all places in the pattern. -/
theorem run_located (h : s.Within p) : Located p (Node.Within p) s.run := by
  fun_induction State.run s with
  | case1 s e he => exact (next_located h).of_error he
  | case2 s n he => exact (next_located h).of_ok he
  | case3 s t he ih => exact ih ((next_located h).of_ok he)

end State

/-- The tree of a pattern stands on it, and so does its fault. -/
theorem Node.ofPattern_located (p : List Char) :
    Located p (Node.Within p) (Node.ofPattern p) :=
  State.run_located (State.start_within p)

end PatternCheck.Pattern
