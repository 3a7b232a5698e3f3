import PatternCheck.Pattern.Check
import PatternCheck.Proofs.Pattern.Depth

/-
A pattern with something in front. Two states of the reader are compared
that stand at the same place with the same text to read, but in one of
them some items (`front`) have been read before everything else. Reading
goes on alike from both: the items in front belong to the first branch of
the outermost level, and reading looks at what has been read only to find
the last item, when a repetition operator comes. The last item is the same
one in both states as soon as there is one (`State.Begun`), so only an
operator right at the beginning tells them apart.

One item keeps the states alike (`State.Beside.next`), and so the trees
in the end differ in the first branch alone (`State.Beside.run`).
-/

namespace PatternCheck.Pattern

variable {front : List Node}

-- ============================================================ outcomes

/-- Either both come out well, and alike, or the same is wrong with both. -/
inductive Alike {α : Type} (r : α → α → Prop) :
    Except Fault α → Except Fault α → Prop
  | ok {a b : α} (h : r a b) : Alike r (.ok a) (.ok b)
  | error (e : Fault) : Alike r (.error e) (.error e)

/-- Outcomes that are alike stay alike. -/
theorem Alike.map {α β : Type} {r : α → α → Prop} {q : β → β → Prop}
    {x y : Except Fault α} {f : α → β} (h : Alike r x y)
    (hf : ∀ a b, r a b → q (f a) (f b)) : Alike q (x.map f) (y.map f) := by
  cases h with
  | ok h => exact .ok (hf _ _ h)
  | error e => exact .error e

-- ============================================================== levels

/-- A tree, and the same tree with items in front of its first branch. -/
inductive Node.Preceded (front : List Node) : Node → Node → Prop
  | intro (n n' p p' : Nat) (items others : List Node) :
      Preceded front (.ofBranches n (.ofItems p items :: others))
        (.ofBranches n' (.ofItems p' (front ++ items) :: others))

/-- The same for a level that is still open. -/
inductive Level.Preceded (front : List Node) : Level → Level → Prop
  /-- The first branch is being read. -/
  | first (n n' p p' : Nat) (items : List Node) :
      Preceded front ⟨n, [], p, items⟩ ⟨n', [], p', items ++ front.reverse⟩
  /-- It has been read. -/
  | later (n n' p p' : Nat) (first done : List Node) (branchPos : Nat)
    (items : List Node) :
      Preceded front ⟨n, done ++ [.ofItems p first], branchPos, items⟩
        ⟨n', done ++ [.ofItems p' (front ++ first)], branchPos, items⟩

/-- Items are kept latest first, so those in front come last. -/
theorem reverse_behind (front items : List Node) :
    (items ++ front.reverse).reverse = front ++ items.reverse := by
  rw [List.reverse_append, List.reverse_reverse]

namespace Level.Preceded

variable {l l' : Level}

/-- An item more comes after those in front. -/
theorem push (h : l.Preceded front l') (x : Node) :
    (l.push x).Preceded front (l'.push x) := by
  cases h with
  | first n n' p p' items => exact .first n n' p p' (x :: items)
  | later n n' p p' first done branchPos items =>
      exact .later n n' p p' first done branchPos (x :: items)

/-- Only the first branch has items in front. -/
theorem nextBranch (h : l.Preceded front l') (pos : Nat) :
    (l.nextBranch pos).Preceded front (l'.nextBranch pos) := by
  cases h with
  | first n n' p p' items =>
      unfold Level.nextBranch Level.branch
      rw [reverse_behind]
      exact .later n n' p p' items.reverse [] pos []
  | later n n' p p' first done branchPos items =>
      exact .later n n' p p' first
        (.ofItems branchPos items.reverse :: done) pos []

/-- At the end of a level the items in front are in its tree. -/
theorem node (h : l.Preceded front l') : l.node.Preceded front l'.node := by
  unfold Level.node Level.branch
  cases h with
  | first n n' p p' items =>
      simp only [List.reverse_singleton, reverse_behind]
      exact .intro n n' p p' items.reverse []
  | later n n' p p' first done branchPos items =>
      simp only [List.reverse_cons, List.reverse_append, List.reverse_nil,
        List.nil_append, List.cons_append]
      exact .intro n n' p p' first _

end Level.Preceded

/-- Levels in levels: the outermost one has items in front. -/
inductive Stacked (front : List Node) :
    Level → List OpenGroup → Level → List OpenGroup → Prop
  | outermost {l l' : Level} (h : l.Preceded front l') :
      Stacked front l [] l' []
  | inside {outer outer' : Level} {gs gs' : List OpenGroup} (n : Nat)
      (kind : GroupKind) (verbose : Bool) (l : Level)
      (h : Stacked front outer gs outer' gs') :
      Stacked front l (⟨n, kind, outer, verbose⟩ :: gs) l
        (⟨n, kind, outer', verbose⟩ :: gs')

namespace Stacked

variable {l l' : Level} {gs gs' : List OpenGroup}

/-- An item more goes on the innermost level. -/
theorem push (h : Stacked front l gs l' gs') (x : Node) :
    Stacked front (l.push x) gs (l'.push x) gs' := by
  cases h with
  | outermost h => exact .outermost (h.push x)
  | inside n kind verbose l h => exact .inside n kind verbose (l.push x) h

/-- So does another branch. -/
theorem nextBranch (h : Stacked front l gs l' gs') (pos : Nat) :
    Stacked front (l.nextBranch pos) gs (l'.nextBranch pos) gs' := by
  cases h with
  | outermost h => exact .outermost (h.nextBranch pos)
  | inside n kind verbose l h =>
      exact .inside n kind verbose (l.nextBranch pos) h

/-- The last item is the same one, and may be exchanged in both. -/
theorem items_cons (h : Stacked front l gs l' gs') {x : Node}
    {items : List Node} (hl : l.items = x :: items) :
    ∃ items', l'.items = x :: items' ∧
      ∀ y, Stacked front { l with items := y :: items } gs
        { l' with items := y :: items' } gs' := by
  cases h with
  | inside n kind verbose l h =>
      exact ⟨items, hl, fun y => .inside n kind verbose _ h⟩
  | outermost h =>
      cases h with
      | first n n' p p' _ =>
          cases hl
          exact ⟨items ++ front.reverse, rfl,
            fun y => .outermost (.first n n' p p' (y :: items))⟩
      | later n n' p p' first done branchPos _ =>
          exact ⟨items, hl, fun y =>
            .outermost (.later n n' p p' first done branchPos (y :: items))⟩

/-- There is none in both, unless nothing has been read. -/
theorem items_nil (h : Stacked front l gs l' gs')
    (begun : gs ≠ [] ∨ l.done ≠ []) (hl : l.items = []) : l'.items = [] := by
  cases h with
  | inside n kind verbose l h => exact hl
  | outermost h =>
      cases h with
      | first n n' p p' items => simp at begun
      | later n n' p p' first done branchPos items => exact hl

end Stacked

-- ============================================================== states

namespace State

/-- There is something before the place, a group around it, an item or a
branch. -/
def Begun (s : State) : Prop :=
  s.groups ≠ [] ∨ s.level.done ≠ [] ∨ s.level.items ≠ []

/-- A state, and the same state with items in front of everything. -/
inductive Beside (front : List Node) : State → State → Prop
  | intro (c : Cursor) (verbose : Bool) (classes : List OpenClass)
    (names : List String)
      {l l' : Level} {gs gs' : List OpenGroup}
        (h : Stacked front l gs l' gs') :
      Beside front ⟨c, verbose, l, gs, classes, names⟩
        ⟨c, verbose, l', gs', classes, names⟩

/-- The same past the beginning of the pattern. -/
structure Preceded (front : List Node) (s s' : State) : Prop where
  beside : s.Beside front s'
  begun : s.classes = [] → s.Begun

variable {s s' : State} {c : Cursor}

/-- Past the first item nothing can be at the beginning. -/
theorem Preceded.pushed {l l' : Level} {gs gs' : List OpenGroup}
    (h : Stacked front l gs l' gs') (x : Node) (c : Cursor) (v : Bool)
    (classes : List OpenClass) (names : List String) :
    Preceded front ⟨c, v, l.push x, gs, classes, names⟩
      ⟨c, v, l'.push x, gs', classes, names⟩ where
  beside := .intro c v classes names (h.push x)
  begun := fun _ => .inr (.inr (List.cons_ne_nil _ _))

/-- An item is added to both. -/
theorem Beside.push (h : s.Beside front s') (x : Node) (after : Cursor) :
    (s.push x after).Preceded front (s'.push x after) := by
  obtain ⟨_, _, _, _, h⟩ := h
  exact .pushed h x _ _ _ _

/-- Inside of brackets nothing is looked at that lies before them. -/
theorem Beside.inside (h : s.Beside front s') (after : Cursor) (o : OpenClass)
    (outer : List OpenClass) :
    Preceded front { s with cursor := after, classes := o :: outer }
      { s' with cursor := after, classes := o :: outer } := by
  obtain ⟨_, _, _, _, h⟩ := h
  exact ⟨.intro _ _ _ _ h, fun none => absurd none (List.cons_ne_nil _ _)⟩

/-- A group opens in both, or cannot be opened in either. -/
theorem Beside.openGroup (h : s.Beside front s') :
    Alike (Preceded front) (s.openGroup c) (s'.openGroup c) := by
  obtain ⟨_, v, classes, names, h⟩ := h
  unfold State.openGroup
  dsimp only
  split
  · exact .error _
  · exact .ok (.pushed h _ _ _ _ _)
  · have inside := fun kind l => Stacked.inside c.pos kind v l h
    split
    · exact .ok ⟨.intro _ _ _ _ (inside _ _), fun _ =>
        .inl (List.cons_ne_nil _ _)⟩
    · exact .ok ⟨.intro _ _ _ _ (inside _ _), fun _ =>
        .inl (List.cons_ne_nil _ _)⟩
    · exact .ok ⟨.intro _ _ _ _ (inside _ _), fun _ =>
        .inl (List.cons_ne_nil _ _)⟩

/-- Both have as many groups open. -/
theorem Beside.closeGroup (h : s.Beside front s') :
    Alike (Preceded front) (s.closeGroup c) (s'.closeGroup c) := by
  obtain ⟨_, _, _, _, h⟩ := h
  cases h with
  | outermost h => exact .error _
  | inside n kind verbose l h => exact .ok (.pushed h _ _ _ _ _)

/-- What is repeated is the same item in both, since something has been
read. -/
theorem Beside.repeatLast (h : s.Beside front s') (begun : s.Begun) (n : Nat)
    (read : Reading (Count × Bool)) :
    Alike (Preceded front) (s.repeatLast n read) (s'.repeatLast n read) := by
  obtain ⟨_, _, _, _, h⟩ := h
  unfold State.repeatLast
  dsimp only
  split
  · next hl =>
      rw [h.items_nil (begun.imp_right fun some =>
        some.resolve_right (fun ne => ne hl)) hl]
      exact .error _
  · next x items hl =>
      obtain ⟨items', hl', exchange⟩ := h.items_cons hl
      rw [hl']
      dsimp only
      split
      · cases read with
        | error e => exact .error e
        | ok r =>
            exact .ok ⟨.intro _ _ _ _ (exchange _), fun _ =>
              .inr (.inr (List.cons_ne_nil _ _))⟩
      · exact .error _

/-- The text that is left does not begin with a repetition operator. -/
def Unrepeated (cs : List Char) : Prop :=
  ∀ x ∈ ['?', '*', '+', '\x7b'], cs.head? ≠ some x

/-- What reading comes to in one step. -/
inductive StepsAlike (front : List Node) : Step → Step → Prop
  | more {s s' : State} (h : s.Preceded front s') :
      StepsAlike front (.more s) (.more s')
  | done {x x' : Node} (h : x.Preceded front x') :
      StepsAlike front (.done x) (.done x')

/-- One item outside brackets. -/
theorem Beside.nextOutside (h : s.Beside front s')
    (begun : s.Begun ∨ Unrepeated c.rest) :
    Alike (StepsAlike front) (s.nextOutside c) (s'.nextOutside c) := by
  have repeats {x : Char} {rest : List Char} (hr : c.rest = x :: rest)
      (hx : x ∈ ['?', '*', '+', '\x7b']) (read : Reading (Count × Bool)) :
      Alike (StepsAlike front) ((s.repeatLast c.pos read).map .more)
        ((s'.repeatLast c.pos read).map .more) := by
    have begun : s.Begun :=
      begun.resolve_right fun un => un x hx (by rw [hr]; rfl)
    exact (h.repeatLast begun c.pos read).map fun _ _ => .more
  have groups := h.openGroup (c := c)
  have closed := h.closeGroup (c := c)
  have pushed := h.push
  have opened := h.inside
  obtain ⟨_, _, _, _, h⟩ := h
  unfold State.nextOutside
  dsimp only
  split
  · cases h with
    | outermost h => exact .ok (.done h.node)
    | inside n kind verbose l h => exact .error _
  · exact groups.map fun _ _ => .more
  · exact closed.map fun _ _ => .more
  · exact .ok (.more ⟨.intro _ _ _ _ (h.nextBranch _), fun _ =>
      .inr (.inl (List.cons_ne_nil _ _))⟩)
  · split
    · exact .error _
    · exact .ok (.more (opened _ _ _))
  · next hr => exact repeats hr (by decide) _
  · next hr => exact repeats hr (by decide) _
  · next hr => exact repeats hr (by decide) _
  · next hr => exact repeats hr (by decide) _
  · exact .ok (.more (pushed _ _))
  · exact .ok (.more (pushed _ _))
  · exact .ok (.more (pushed _ _))
  · split
    · exact .error _
    · exact .ok (.more (pushed _ _))

/-- A class ends in both. -/
theorem Beside.closeClass (h : s.Beside front s') (o : OpenClass)
    (outer : List OpenClass) (after : Cursor) :
    (s.closeClass o outer after).Preceded front
      (s'.closeClass o outer after) := by
  cases outer with
  | cons p outer => exact h.inside after _ outer
  | nil =>
      obtain ⟨_, _, _, _, h⟩ := h
      exact .pushed h _ _ _ _ _

/-- One item inside brackets. -/
theorem Beside.nextInside (h : s.Beside front s') (o : OpenClass)
    (outer : List OpenClass) :
    Alike (Preceded front) (s.nextInside o outer c)
      (s'.nextInside o outer c) := by
  have closed := h.closeClass o outer
  have inside := h.inside
  obtain ⟨_, _, _, _, h⟩ := h
  unfold State.nextInside
  dsimp only
  split
  · exact .error _
  · split
    · exact .ok (inside _ _ _)
    · split
      · exact .error _
      · exact .ok (inside _ _ _)
  · exact .ok (closed _)
  · split
    · exact .ok (inside _ _ _)
    · split
      · exact .error _
      · exact .ok (inside _ _ _)

/-- One item is read alike, unless an operator comes where there is nothing
before it. -/
theorem Beside.next (h : s.Beside front s')
    (begun : s.classes = [] → s.Begun
      ∨ Unrepeated (s.cursor.space s.verbose).rest) :
    Alike (StepsAlike front) s.next s'.next := by
  have outside := fun none => h.nextOutside (begun none)
  have inside :=
    fun o outer => h.nextInside (c := s.cursor.space s.verbose) o outer
  obtain ⟨c, v, classes, names, h⟩ := h
  unfold State.next
  cases classes with
  | nil => exact outside rfl
  | cons o outer => exact (inside o outer).map fun _ _ => .more

/-- Everything is read alike. -/
theorem Beside.run (h : s.Beside front s')
    (begun : s.classes = [] → s.Begun
      ∨ Unrepeated (s.cursor.space s.verbose).rest) :
    Alike (Node.Preceded front) s.run s'.run := by
  have next := h.next begun
  generalize hs' : s'.next = r at next
  fun_induction State.run s generalizing s' r with
  | case1 s e hs =>
      rw [hs] at next
      obtain - | e := next
      rw [run_of_error hs']
      exact .error e
  | case2 s x hs =>
      rw [hs] at next
      obtain ⟨- | tree⟩ := next
      rw [run_of_done hs']
      exact .ok tree
  | case3 s t hs ih =>
      rw [hs] at next
      obtain ⟨more | -⟩ := next
      rw [run_of_more hs']
      have begun (none : t.classes = []) :
          t.Begun ∨ Unrepeated (t.cursor.space t.verbose).rest :=
        .inl (more.begun none)
      exact ih more.beside begun _ rfl (more.beside.next begun)

end State

-- =============================================================== trees

namespace Node

variable {m : Modes} {x x' : Node}

/-- Of two rows of trees the deeper one counts. -/
theorem depths_append (xs ys : List Node) :
    depths (xs ++ ys) = max (depths xs) (depths ys) := by
  induction xs with
  | nil => simp [depths]
  | cons x xs ih => rw [List.cons_append, depths, ih, depths, Nat.max_assoc]

/-- What stands in front adds one level at most. -/
theorem Preceded.depth_le (h : x.Preceded front x') (flat : depths front = 0) :
    x'.depth ≤ x.depth + 1 := by
  obtain ⟨n, n', p, p', items, others⟩ := h
  have branch :
      (ofItems p' (front ++ items)).depth ≤ (ofItems p items).depth + 1 := by
    have alone := (depth_ofItems p items).1
    have together := (depth_ofItems p' (front ++ items)).2
    rw [depths_append, flat] at together
    omega
  cases others with
  | nil => exact branch
  | cons other others =>
      simp only [ofBranches, depth, depths]
      omega

/-- The modes after several patterns, if all of them mean something. -/
def modesAfter (m : Modes) (items : List Node) : Except Fault Modes :=
  (matchers m items).map (·.2)

/-- Modes go from one tree to the next. -/
theorem modesAfter_cons (m : Modes) (x : Node) (rest : List Node) :
    modesAfter m (x :: rest)
      = ((x.matcher m).map (·.2)).bind (modesAfter · rest) := by
  unfold modesAfter
  rw [matchers]
  cases x.matcher m with
  | error e => rfl
  | ok r =>
      obtain ⟨sub, next⟩ := r
      simp only [bind, Except.bind, Except.map]
      cases matchers next rest <;> rfl

/-- So they go from one row of trees to another. -/
theorem modesAfter_append (xs ys : List Node) : ∀ m : Modes,
    modesAfter m (xs ++ ys) = (modesAfter m xs).bind (modesAfter · ys) := by
  induction xs with
  | nil => exact fun _ => rfl
  | cons x xs ih =>
      intro m
      rw [List.cons_append, modesAfter_cons, modesAfter_cons]
      cases x.matcher m with
      | error e => rfl
      | ok r => exact ih r.2

/-- Items as one pattern mean something when they all do. -/
theorem modes_ofItems (m : Modes) (n : Nat) (items : List Node) :
    ((ofItems n items).matcher m).map (·.2) = modesAfter m items := by
  match items with
  | [] => rfl
  | [x] =>
      rw [modesAfter_cons]
      cases hx : x.matcher m <;> simp only [ofItems, hx] <;> rfl
  | x :: y :: rest =>
      have joined : ofItems n (x :: y :: rest) = concat n (x :: y :: rest) :=
        rfl
      rw [joined, matcher, modesAfter]
      cases matchers m (x :: y :: rest) <;> rfl

/-- And so they go from one branch to the next. -/
theorem modes_ofBranches (m : Modes) (n : Nat) (branches : List Node) :
    ((ofBranches n branches).matcher m).map (·.2) = modesAfter m branches := by
  match branches with
  | [] => rfl
  | [x] =>
      rw [modesAfter_cons]
      cases hx : x.matcher m <;> simp only [ofBranches, hx] <;> rfl
  | x :: y :: rest =>
      have joined :
          ofBranches n (x :: y :: rest) = alternation n (x :: y :: rest) := rfl
      rw [joined, matcher, modesAfter]
      cases matchers m (x :: y :: rest) <;> rfl

/-- What stands in front and means something leaves it to the rest whether
all of it does. -/
theorem Preceded.modes (h : x.Preceded front x')
    (sound : modesAfter m front = .ok m) :
    (x'.matcher m).map (·.2) = (x.matcher m).map (·.2) := by
  obtain ⟨n, n', p, p', items, others⟩ := h
  have branch : ((ofItems p' (front ++ items)).matcher m).map (·.2) =
      ((ofItems p items).matcher m).map (·.2) := by
    rw [modes_ofItems, modesAfter_append, sound, modes_ofItems]
    rfl
  rw [modes_ofBranches, modes_ofBranches, modesAfter_cons,
    modesAfter_cons, branch]

end Node

end PatternCheck.Pattern
