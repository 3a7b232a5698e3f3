import PatternCheck.Proofs.Pattern.Depth
import PatternCheck.Proofs.Pattern.Place
import PatternCheck.Proofs.Pattern.Printed.Steps
import Mathlib.Data.List.Infix

/-
Patterns that have nothing but groups, alternatives and repetitions
without counts. For them the whole grammar is said here once more, by a
scan of the text alone: which character offends first, and which
parentheses are still open at the end.

The invariant `Reads` ties a state of the reader to the text read so far:
the open groups are the open parentheses, and the current branch is
empty exactly where a repetition would have nothing to repeat. One item
keeps it or stops at the offending character (`Reads.next`), so a whole
run ends as the scan says (`Reads.run`); what it builds is `Plain`, and
plain trees mean something in every mode (`Node.Plain.matcher`).
-/

namespace PatternCheck.Pattern

open Text.Utf8 (length length_cons length_append)

-- ======================================================= the scan

/-- Without escapes, classes, counts, and questions after a parenthesis. -/
structure IsPlain (cs : List Char) : Prop where
  noEscape : '\\' ∉ cs
  noClass : '[' ∉ cs
  noCount : '\x7b' ∉ cs
  noQuestion : ¬ ['(', '?'] <:+: cs

/-- What a character does to the places of the open parentheses. -/
def openParensStep (stack : List Nat) : Char × Nat → List Nat
  | ('(', i) => i :: stack
  | (')', _) => stack.tail
  | _ => stack

/-- Where the parentheses stand that are open at the end of a text, in
characters; the last one comes first. -/
def openParens (cs : List Char) : List Nat := cs.zipIdx.foldl openParensStep []

/-- Whether nothing stands before a place that could be repeated. -/
def StartsBranch (cs : List Char) (i : Nat) : Prop :=
  i = 0 ∨ cs[i - 1]? = some '(' ∨ cs[i - 1]? = some '|'

/-- A closing parenthesis offends where none is open, a repetition where
there is nothing to repeat. -/
def Offends (cs : List Char) (i : Nat) : Prop :=
  (cs[i]? = some ')' ∧ openParens (cs.take i) = []) ∨
    ((cs[i]? = some '*' ∨ cs[i]? = some '+' ∨ cs[i]? = some '?') ∧
      StartsBranch cs i)

/-- The character that offends and comes before all others that do. -/
def OffendsFirst (cs : List Char) (i : Nat) : Prop :=
  Offends cs i ∧ ∀ j < i, ¬ Offends cs j

instance (cs : List Char) (i : Nat) : Decidable (StartsBranch cs i) :=
  inferInstanceAs (Decidable (_ ∨ _))

instance (cs : List Char) (i : Nat) : Decidable (Offends cs i) :=
  inferInstanceAs (Decidable (_ ∨ _))

instance (cs : List Char) (i : Nat) : Decidable (OffendsFirst cs i) :=
  letI := Nat.decidableBallLT i fun j _ => ¬ Offends cs j
  inferInstanceAs (Decidable (_ ∧ _))

instance (cs : List Char) : Decidable (IsPlain cs) :=
  decidable_of_iff ('\\' ∉ cs ∧ '[' ∉ cs ∧ '\x7b' ∉ cs ∧ ¬ ['(', '?'] <:+: cs)
    ⟨fun ⟨h1, h2, h3, h4⟩ => ⟨h1, h2, h3, h4⟩,
      fun ⟨h1, h2, h3, h4⟩ => ⟨h1, h2, h3, h4⟩⟩

/-- Whether nothing could be repeated after a text. -/
def Fresh (before : List Char) : Prop :=
  before = [] ∨ before.getLast? = some '(' ∨ before.getLast? = some '|'

variable {before rest : List Char} {x : Char}

/-- The scan goes on by one character. -/
theorem openParens_snoc (before : List Char) (x : Char) :
    openParens (before ++ [x])
      = openParensStep (openParens before) (x, before.length) := by
  unfold openParens
  rw [List.zipIdx_append, List.foldl_append]
  simp

/-- Open parentheses stand in the text. -/
theorem lt_length_of_mem_openParens {cs : List Char} :
    ∀ i ∈ openParens cs, i < cs.length := by
  induction cs using List.reverseRecOn with
  | nil => simp [openParens]
  | append_singleton cs x ih =>
      intro i hi
      rw [openParens_snoc] at hi
      rw [List.length_append, List.length_singleton]
      unfold openParensStep at hi
      split at hi
      · next k e =>
          cases e
          rcases List.mem_cons.1 hi with rfl | hi
          · omega
          · have := ih i hi
            omega
      · have := ih i (List.mem_of_mem_tail hi)
        omega
      · have := ih i hi
        omega

/-- Only parentheses matter to it. -/
theorem openParens_snoc_of_ne (h1 : x ≠ '(') (h2 : x ≠ ')') :
    openParens (before ++ [x]) = openParens before := by
  rw [openParens_snoc, openParensStep]
  · intro i h; exact h1 (Prod.ext_iff.1 h).1
  · intro i h; exact h2 (Prod.ext_iff.1 h).1

/-- Whether something could be repeated is seen from the last character. -/
theorem fresh_snoc : Fresh (before ++ [x]) ↔ x = '(' ∨ x = '|' := by
  simp [Fresh, List.getLast?_append]

/-- The scan and the text before a place say the same. -/
theorem startsBranch_iff :
    StartsBranch (before ++ rest) before.length ↔ Fresh before := by
  unfold StartsBranch Fresh
  rcases List.eq_nil_or_concat before with rfl | ⟨init, y, rfl⟩
  · simp
  · simp

/-- Nothing offends after the end. -/
theorem not_offends_of_length_le {cs : List Char} {i : Nat}
    (h : cs.length ≤ i) : ¬ Offends cs i := by
  simp [Offends, List.getElem?_eq_none h]

/-- The scan at the next character. -/
theorem offends_iff : Offends (before ++ x :: rest) before.length ↔
    (x = ')' ∧ openParens before = [])
      ∨ (x ∈ ['*', '+', '?'] ∧ Fresh before) := by
  unfold Offends
  rw [startsBranch_iff]
  simp

-- ======================================================== plain trees

namespace Node

mutual

/-- Trees that nothing is wrong with in any mode that knows Unicode. -/
def Plain : Node → Prop
  | .empty _ => True
  | .dot _ => True
  | .atom (.literal _) => True
  | .atom (.assertion _ _) => True
  | .repetition _ _ _ body => body.Plain
  | .group _ .capture body => body.Plain
  | .alternation _ branches => AllPlain branches
  | .concat _ items => AllPlain items
  | _ => False

/-- The same for several trees. -/
def AllPlain : List Node → Prop
  | [] => True
  | x :: rest => x.Plain ∧ AllPlain rest

end

theorem allPlain_iff {items : List Node} :
    AllPlain items ↔ ∀ x ∈ items, x.Plain := by
  induction items with
  | nil => simp [AllPlain]
  | cons x rest ih => simp [AllPlain, ih]

/-- Items make a plain tree, whether there are none, one or more of them. -/
theorem ofItems_plain {n : Nat} {items : List Node}
    (h : ∀ x ∈ items, x.Plain) : (ofItems n items).Plain := by
  match items with
  | [] => trivial
  | [x] => exact h x (by simp)
  | x :: y :: rest => exact allPlain_iff.2 h

theorem ofBranches_plain {n : Nat} {branches : List Node}
    (h : ∀ x ∈ branches, x.Plain) : (ofBranches n branches).Plain := by
  match branches with
  | [] => trivial
  | [x] => exact h x (by simp)
  | x :: y :: rest => exact allPlain_iff.2 h

/-- With Unicode every literal matches something. -/
theorem literalMatcher_ok {m : Modes} (hm : m.unicode = true) (l : Literal) :
    ∃ k, literalMatcher m l = .ok k := by
  have code : literalCode m l = .ok l.char.toNat := by simp [literalCode, hm]
  unfold literalMatcher
  rw [code]
  cases m.caseInsensitive
  · exact ⟨_, rfl⟩
  · exact ⟨_, rfl⟩

mutual

/-- A plain tree matches something and leaves the modes as they are. -/
theorem Plain.matcher {m : Modes} (hm : m.unicode = true) :
    ∀ {x : Node}, x.Plain → ∃ k, x.matcher m = .ok (k, m)
  | .empty _, _ => ⟨_, rfl⟩
  | .dot _, _ => ⟨_, by rw [Node.matcher, if_pos hm]⟩
  | .atom (.literal l), _ => by
      obtain ⟨k, hk⟩ := literalMatcher_ok hm l
      exact ⟨k, by rw [Node.matcher, Atom.matcher, hk]; rfl⟩
  | .atom (.assertion _ _), _ => ⟨_, rfl⟩
  | .repetition _ _ _ body, h => by
      obtain ⟨k, hk⟩ := Plain.matcher hm (x := body) h
      exact ⟨_, by rw [Node.matcher, hk]; rfl⟩
  | .group _ .capture body, h => by
      obtain ⟨k, hk⟩ := Plain.matcher hm (x := body) h
      refine ⟨.capture k, ?_⟩
      rw [Node.matcher, hk]
      · rfl
      · rintro changes ⟨⟩
  | .alternation _ branches, h => by
      obtain ⟨ks, hks⟩ : ∃ ks, Node.matchers m branches = .ok (ks, m) :=
        AllPlain.matchers hm h
      exact ⟨_, by rw [Node.matcher, hks]; rfl⟩
  | .concat _ items, h => by
      obtain ⟨ks, hks⟩ : ∃ ks, Node.matchers m items = .ok (ks, m) :=
        AllPlain.matchers hm h
      exact ⟨_, by rw [Node.matcher, hks]; rfl⟩

theorem AllPlain.matchers {m : Modes} (hm : m.unicode = true) :
    ∀ {items : List Node}, AllPlain items →
      ∃ ks, Node.matchers m items = .ok (ks, m)
  | [], _ => ⟨_, rfl⟩
  | x :: rest, h => by
      obtain ⟨k, hk⟩ := Plain.matcher hm h.1
      obtain ⟨ks, hks⟩ := AllPlain.matchers hm h.2
      refine ⟨k :: ks, ?_⟩
      rw [Node.matchers, hk]
      simp only [bind, Except.bind, hks]
      rfl

end

end Node

/-- A level whose trees are plain and can all be repeated. -/
structure Level.Plain (l : Level) : Prop where
  done : ∀ y ∈ l.done, y.Plain
  items : ∀ y ∈ l.items, y.Plain ∧ y.isRepeatable = true

namespace Level.Plain

variable {l : Level}

theorem start (n : Nat) : (Level.start n).Plain :=
  ⟨by simp [Level.start], by simp [Level.start]⟩

/-- One plain item more, which can be repeated. -/
theorem push {y : Node} (h : l.Plain) (hy : y.Plain)
    (hr : y.isRepeatable = true) : (l.push y).Plain where
  done := h.done
  items := by
    intro z hz
    rcases List.mem_cons.1 hz with rfl | hz
    · exact ⟨hy, hr⟩
    · exact h.items z hz

theorem branch (h : l.Plain) : l.branch.Plain :=
  Node.ofItems_plain fun y hy => (h.items y (List.mem_reverse.1 hy)).1

/-- An alternative that has ended is plain. -/
theorem nextBranch {n : Nat} (h : l.Plain) : (l.nextBranch n).Plain where
  done := by
    intro y hy
    rcases List.mem_cons.1 hy with rfl | hy
    · exact h.branch
    · exact h.done y hy
  items := by simp [Level.nextBranch]

theorem node (h : l.Plain) : l.node.Plain := by
  refine Node.ofBranches_plain fun y hy => ?_
  rcases List.mem_cons.1 (List.mem_reverse.1 hy) with rfl | hy
  · exact h.branch
  · exact h.done y hy

end Level.Plain

-- ======================================================== the invariant

/-- The state of the reader after the text `before`, with `rest` still to
come. -/
structure Reads (before rest : List Char) (s : State) : Prop where
  cursor : s.cursor = ⟨rest, length before⟩
  verbose : s.verbose = false
  classes : s.classes = []
  groups : s.groups.map (·.pos) =
    (openParens before).map fun i => length ((before ++ rest).take i)
  outer : ∀ g ∈ s.groups, g.kind = .capture ∧ g.verbose = false ∧ g.outer.Plain
  level : s.level.Plain
  fresh : s.level.items = [] ↔ Fresh before

namespace Reads

variable {s : State}

/-- Before anything is read, nothing could be repeated, and no parenthesis is
open. -/
theorem start (p : List Char) : Reads [] p (State.start p) where
  cursor := rfl
  verbose := rfl
  classes := rfl
  groups := rfl
  outer := by simp [State.start]
  level := .start 0
  fresh := by simp [State.start, Level.start, Fresh]

/-- No class is ever open, and no blank is passed over. -/
theorem next_eq (h : Reads before rest s) :
    s.next = s.nextOutside ⟨rest, length before⟩ := by
  unfold State.next Cursor.space
  rw [h.verbose, h.classes, h.cursor]
  rfl

/-- The open groups are the open parentheses. -/
theorem groups_eq_nil (h : Reads before rest s) :
    s.groups = [] ↔ openParens before = [] := by
  rw [← List.map_eq_nil_iff (f := (·.pos)), h.groups, List.map_eq_nil_iff]

/-- A character that is no parenthesis changes the level alone. -/
theorem item {l : Level} {n : Nat} (h : Reads before (x :: rest) s)
    (h1 : x ≠ '(') (h2 : x ≠ ')') (hl : l.Plain) (hf : l.items = [] ↔ x = '|')
    (hn : n = length before + x.utf8Size) :
    Reads (before ++ [x]) rest { s with cursor := ⟨rest, n⟩, level := l } where
  cursor := by simp [hn]
  verbose := h.verbose
  classes := h.classes
  groups := by
    rw [openParens_snoc_of_ne h1 h2, List.append_assoc]
    exact h.groups
  outer := h.outer
  level := hl
  fresh := by
    rw [fresh_snoc]
    simpa [h1] using hf

/-- A character that becomes an item. -/
theorem push {y : Node} (h : Reads before (x :: rest) s) (h1 : x ≠ '(')
    (h2 : x ≠ ')') (h3 : x ≠ '|') (hy : y.Plain) (hr : y.isRepeatable = true) :
    Reads (before ++ [x]) rest (s.push y ⟨rest, length before + x.utf8Size⟩) :=
  h.item h1 h2 (h.level.push hy hr) (by simp [Level.push, h3]) rfl

/-- An opening parenthesis. -/
theorem openGroup (h : Reads before ('(' :: rest) s)
    (hq : ∀ r, rest ≠ '?' :: r) :
    ∃ t, s.openGroup ⟨'(' :: rest, length before⟩ = .ok t
      ∧ Reads (before ++ ['(']) rest t := by
  have opening : Opening.read false s.names ⟨'(' :: rest, length before⟩ =
      .ok (.group .capture, ⟨rest, length before + '('.utf8Size⟩) :=
    Opening.read_capture (fun h =>
      (List.head?_eq_some_iff.1 h).elim hq) s.names
  refine ⟨_, by rw [State.openGroup, h.verbose, opening], ?_⟩
  refine ⟨by simp, rfl, h.classes, ?_, ?_, .start _, ?_⟩
  · rw [openParens_snoc]
    simp [openParensStep, h.groups]
  · intro g hg
    rcases List.mem_cons.1 hg with rfl | hg
    · exact ⟨rfl, rfl, h.level⟩
    · exact h.outer g hg
  · simp [Level.start, fresh_snoc]

/-- A closing parenthesis. -/
theorem closeGroup (h : Reads before (')' :: rest) s) :
    (openParens before = [] ∧
      s.closeGroup ⟨')' :: rest, length before⟩
        = refuse .groupUnopened (length before)) ∨
    (openParens before ≠ [] ∧
      ∃ t, s.closeGroup ⟨')' :: rest, length before⟩ = .ok t ∧
        Reads (before ++ [')']) rest t) := by
  unfold State.closeGroup
  cases hg : s.groups with
  | nil => exact .inl ⟨h.groups_eq_nil.1 hg, rfl⟩
  | cons g groups =>
      refine .inr ⟨fun e => by simp [h.groups_eq_nil.2 e] at hg, _, rfl, ?_⟩
      obtain ⟨hk, hv, ho⟩ := h.outer g (by simp [hg])
      have plain : (Node.group g.pos g.kind s.level.node).Plain := by
        rw [hk]
        exact h.level.node
      refine ⟨by simp [Cursor.advance], hv, h.classes, ?_, ?_,
        ho.push plain rfl, ?_⟩
      · have hp := congrArg List.tail h.groups
        rw [hg] at hp
        rw [openParens_snoc]
        simpa [openParensStep, List.map_tail] using hp
      · intro g' hg'
        exact h.outer g' (by simp [hg, hg'])
      · simp [Level.push, fresh_snoc]

/-- A repetition by one character, lazy or not. -/
theorem simpleRepeat_cases (count : Count) (x : Char) (rest : List Char)
    (n : Nat) :
    (∃ r, rest = '?' :: r ∧ State.simpleRepeat count ⟨x :: rest, n⟩ =
      .ok ((count, true), ⟨r, n + x.utf8Size + '?'.utf8Size⟩)) ∨
    State.simpleRepeat count ⟨x :: rest, n⟩
      = .ok ((count, false), ⟨rest, n + x.utf8Size⟩) := by
  unfold State.simpleRepeat readLazy Cursor.advance
  cases rest with
  | nil => exact .inr rfl
  | cons y r =>
      by_cases hy : y = '?'
      · subst hy
        exact .inl ⟨r, rfl, rfl⟩
      · right
        simp [hy]

/-- A repetition, which takes a question mark after it along. -/
theorem repeatLast (h : Reads before (x :: rest) s) (hx : x ∈ ['*', '+', '?'])
    (count : Count) :
    (Fresh before ∧
      s.repeatLast (length before)
          (State.simpleRepeat count ⟨x :: rest, length before⟩)
        = refuse .nothingToRepeat (length before)) ∨
    (¬ Fresh before ∧ ∃ t,
      s.repeatLast (length before)
          (State.simpleRepeat count ⟨x :: rest, length before⟩) = .ok t ∧
        (Reads (before ++ [x]) rest t ∨
          ∃ r, rest = '?' :: r ∧ Reads (before ++ [x] ++ ['?']) r t)) := by
  have ne : ∀ y ∈ ['(', ')', '|'], x ≠ y := by
    intro y hy e
    subst e
    simp only [List.mem_cons, List.not_mem_nil, or_false] at hx hy
    rcases hx with rfl | rfl | rfl <;> simp at hy
  unfold State.repeatLast
  cases hi : s.level.items with
  | nil => exact .inl ⟨h.fresh.1 hi, rfl⟩
  | cons y items =>
      obtain ⟨hy, hr⟩ := h.level.items y (by simp [hi])
      refine .inr ⟨fun e => by simp [h.fresh.2 e] at hi, ?_⟩
      have repeated (lazy : Bool) : Level.Plain
          { s.level with items :=
              .repetition y.pos count lazy y :: items } := by
        refine ⟨h.level.done, fun z hz => ?_⟩
        rcases List.mem_cons.1 hz with rfl | hz
        · exact ⟨hy, rfl⟩
        · exact h.level.items z (by simp [hi, hz])
      have one (lazy : Bool) :=
        h.item (n := length before + x.utf8Size) (ne _ (by simp))
          (ne _ (by simp)) (repeated lazy) (by simp [ne '|' (by simp)]) rfl
      simp only [hr, if_true]
      rcases simpleRepeat_cases count x rest
        (length before) with ⟨r, rfl, e⟩ | e
      · rw [e]
        exact ⟨_, rfl,
          .inr ⟨r, rfl, (one true).item (by decide) (by decide) (repeated true)
          (by simp) (by simp)⟩⟩
      · rw [e]
        exact ⟨_, rfl, .inl (one false)⟩

/-- The cause that a character gives where it offends. -/
def offence (x : Char) : Cause :=
  if x = ')' then .groupUnopened else .nothingToRepeat

/-- One item goes on over some characters of which none offends. -/
def GoesOn (before rest : List Char) (s : State) : Prop :=
  ∃ taken r t, rest = taken ++ r ∧ 0 < taken.length ∧
    (∀ j, before.length ≤ j → j < (before ++ taken).length →
      ¬ Offends (before ++ rest) j) ∧
    s.next = .ok (.more t) ∧ Reads (before ++ taken) r t

/-- One character has been read. -/
theorem goesOn_one {t : State} (hn : s.next = .ok (.more t))
    (ht : Reads (before ++ [x]) rest t)
    (hno : ¬ Offends (before ++ x :: rest) before.length) :
    GoesOn before (x :: rest) s := by
  refine ⟨[x], rest, t, rfl, by simp, fun j hj hj' => ?_, hn, ht⟩
  have hj : j = before.length := by
    simp only [List.length_append, List.length_singleton] at hj'
    omega
  rw [hj]
  exact hno

/-- Two have been read, such as an operator with its question mark. -/
theorem goesOn_two {t : State} {y : Char} (hn : s.next = .ok (.more t))
    (ht : Reads (before ++ [x] ++ [y]) rest t)
    (h1 : ¬ Offends (before ++ x :: y :: rest) before.length)
    (h2 : ¬ Offends (before ++ [x] ++ y :: rest) (before ++ [x]).length) :
    GoesOn before (x :: y :: rest) s := by
  refine ⟨[x, y], rest, t, rfl, by simp, fun j hj hj' => ?_,
    hn, by simpa using ht⟩
  simp only [List.length_append, List.length_cons, List.length_nil] at hj' h2
  rcases Nat.lt_or_ge before.length j with hlt | hge
  · have hj : j = before.length + (0 + 1) := by omega
    rw [hj]
    simpa using h2
  · have hj : j = before.length := by omega
    rw [hj]
    exact h1

/-- An offending repetition stops the reader, any other one is read. -/
theorem next_repeat {count : Count} (h : Reads before (x :: rest) s)
    (hx : x ∈ ['*', '+', '?'])
    (hn : s.next = (s.repeatLast (length before)
      (State.simpleRepeat count ⟨x :: rest, length before⟩)).map .more) :
    (Offends (before ++ x :: rest) before.length ∧
      s.next = .error ⟨.nothingToRepeat, length before⟩) ∨
        GoesOn before (x :: rest) s := by
  have hclose : x ≠ ')' := by rintro rfl; simp at hx
  rcases h.repeatLast hx count with ⟨hf, he⟩ | ⟨hf, t, ht, one | ⟨r, rfl, two⟩⟩
  · refine .inl ⟨offends_iff.2 (.inr ⟨hx, hf⟩), ?_⟩
    rw [hn, he]
    rfl
  · rw [ht] at hn
    exact .inr (goesOn_one hn one (by simp [offends_iff, hclose, hf]))
  · rw [ht] at hn
    refine .inr (goesOn_two hn two (by simp [offends_iff, hclose, hf]) ?_)
    have notFresh : ¬ Fresh (before ++ [x]) := by
      rw [fresh_snoc]
      rintro (rfl | rfl) <;> simp at hx
    rw [offends_iff]
    simp [notFresh]

/-- One item goes on without an offence, or stops at the next character,
which offends. -/
theorem next (h : Reads before (x :: rest) s)
    (hp : IsPlain (before ++ x :: rest)) :
    (Offends (before ++ x :: rest) before.length ∧
      s.next = .error ⟨offence x, length before⟩) ∨
        GoesOn before (x :: rest) s := by
  have hn := h.next_eq
  -- what is not an operator becomes an item and offends nobody
  have pushed {y : Node} (h1 : x ∉ ['(', ')', '|']) (h2 : x ∉ ['*', '+', '?'])
    (hy : y.Plain) (hr : y.isRepeatable = true)
      (hs : s.next
        = .ok (.more (s.push y ⟨rest, length before + x.utf8Size⟩))) :
      GoesOn before (x :: rest) s := by
    simp only [List.mem_cons, List.not_mem_nil, or_false, not_or] at h1
    exact goesOn_one hs (h.push h1.1 h1.2.1 h1.2.2 hy hr)
      (by simp [offends_iff, h1, h2])
  unfold State.nextOutside at hn
  dsimp only at hn
  split at hn
  · next e => cases e
  · next e =>
      cases e
      have hq : ∀ r, rest ≠ '?' :: r := by
        rintro r rfl
        exact hp.noQuestion ⟨before, r, by simp⟩
      obtain ⟨t, ht, reads⟩ := h.openGroup hq
      rw [ht] at hn
      exact .inr (goesOn_one hn reads (by simp [offends_iff]))
  · next e =>
      cases e
      rcases h.closeGroup with ⟨ho, hc⟩ | ⟨ho, t, hc, reads⟩
      · rw [hc] at hn
        exact .inl ⟨offends_iff.2 (.inl ⟨rfl, ho⟩), hn⟩
      · rw [hc] at hn
        exact .inr (goesOn_one hn reads (by simp [offends_iff, ho]))
  · next e =>
      cases e
      exact .inr
        (goesOn_one hn (h.item (by decide) (by decide) h.level.nextBranch
        (by simp [Level.nextBranch]) rfl) (by simp [offends_iff]))
  · next e =>
      cases e
      exact absurd (by simp) hp.noClass
  · next e => cases e; exact h.next_repeat (by simp) hn
  · next e => cases e; exact h.next_repeat (by simp) hn
  · next e => cases e; exact h.next_repeat (by simp) hn
  · next e =>
      cases e
      exact absurd (by simp) hp.noCount
  · next e =>
      cases e
      exact .inr (pushed (y := .dot _) (by decide) (by decide) trivial rfl hn)
  · next e =>
      cases e
      exact .inr (pushed (y := .atom (.assertion _ _)) (by decide) (by decide)
        trivial rfl hn)
  · next e =>
      cases e
      exact .inr (pushed (y := .atom (.assertion _ _)) (by decide) (by decide)
        trivial rfl hn)
  · next notOpen notClose notBar _ notLazy notStar notPlus _ _ _ _ =>
      have notEscape : x ≠ '\\' := by
        rintro rfl
        exact hp.noEscape (by simp)
      have atom : Atom.read s.verbose ⟨x :: rest, length before⟩ =
          .ok (.literal { pos := length before, char := x },
            ⟨rest, length before + x.utf8Size⟩) :=
        Atom.read_plain notEscape s.verbose rest (length before)
      rw [atom] at hn
      refine .inr (pushed (y := .atom (.literal _)) ?_ ?_ trivial rfl hn)
      · simp only [List.mem_cons, List.not_mem_nil, or_false, not_or]
        exact ⟨fun e => notOpen rest (by rw [e]),
          fun e => notClose rest (by rw [e]), fun e => notBar rest (by rw [e])⟩
      · simp only [List.mem_cons, List.not_mem_nil, or_false, not_or]
        exact ⟨fun e => notStar rest (by rw [e]),
          fun e => notPlus rest (by rw [e]), fun e => notLazy rest (by rw [e])⟩

end Reads

-- ============================================================ whole runs

/-- What reading comes to if the scan has got to the place `k`: the first
offence from there on, else the innermost parenthesis left open, else a
plain tree. -/
structure EndsFrom (p : List Char) (k : Nat)
    (r : Except Fault Node) : Prop where
  offence : ∀ i x, k ≤ i → p[i]? = some x → Offends p i →
    (∀ j, k ≤ j → j < i → ¬ Offends p j) →
    r = .error ⟨Reads.offence x, length (p.take i)⟩
  unclosed : (∀ i, k ≤ i → ¬ Offends p i) → ∀ i is, openParens p = i :: is →
    r = .error ⟨.groupUnclosed, length (p.take i)⟩
  closed : (∀ i, k ≤ i → ¬ Offends p i) → openParens p = [] →
    ∃ n, r = .ok n ∧ n.Plain

/-- A run that ends as the scan says from some place on does so from an
earlier one, if nothing offends in between. -/
theorem EndsFrom.back {p : List Char} {k k' : Nat} {r : Except Fault Node}
    (h : EndsFrom p k' r) (hk : k ≤ k')
    (hno : ∀ j, k ≤ j → j < k' → ¬ Offends p j) : EndsFrom p k r where
  offence := by
    intro i x hi hx ho hfirst
    have hi' : k' ≤ i := by
      rcases Nat.lt_or_ge i k' with hlt | hge
      · exact absurd ho (hno i hi hlt)
      · exact hge
    exact h.offence i x hi' hx ho fun j hj => hfirst j (by omega)
  unclosed hnone := h.unclosed fun i hi => hnone i (by omega)
  closed hnone := h.closed fun i hi => hnone i (by omega)

/-- Where the text ends, open groups decide. -/
theorem Reads.run_nil {s : State} (h : Reads before [] s) :
    EndsFrom before before.length s.run := by
  have hn := h.next_eq
  have groups := h.groups
  rw [List.append_nil] at groups
  unfold State.nextOutside at hn
  dsimp only at hn
  refine ⟨fun i x hi hx _ _ => ?_, fun _ i is hi => ?_, fun _ hi => ?_⟩
  · rw [List.getElem?_eq_none hi] at hx
    cases hx
  · rw [hi, List.map_cons] at groups
    cases hg : s.groups with
    | nil => simp [hg] at groups
    | cons g gs =>
        rw [hg] at hn groups
        have place : g.pos = length (before.take i) := (List.cons.inj groups).1
        rw [State.run_of_error hn, place]
  · rw [h.groups_eq_nil.2 hi] at hn
    exact ⟨_, State.run_of_done hn, h.level.node⟩

/-- From any state that agrees with the text read so far the reader ends
as the scan of the whole text says. -/
theorem Reads.run {s : State} (h : Reads before rest s)
    (hp : IsPlain (before ++ rest)) :
    EndsFrom (before ++ rest) before.length s.run := by
  -- on the length of what is left, since one item may take two characters
  induction hlen : rest.length using Nat.strongRecOn
    generalizing before rest s with
  | ind n ih =>
    cases rest with
    | nil =>
        rw [List.append_nil]
        exact h.run_nil
    | cons x rest =>
        rcases h.next hp with ⟨ho, he⟩
          | ⟨taken, r, t, hsplit, hpos, hno, hn, reads⟩
        · rw [State.run_of_error he]
          refine ⟨fun i y hi hy _ hfirst => ?_,
            fun hnone => absurd ho (hnone _ (by simp)),
            fun hnone => absurd ho (hnone _ (by simp))⟩
          have hi : i = before.length := by
            rcases Nat.lt_or_ge before.length i with hlt | hge
            · exact absurd ho (hfirst _ (Nat.le_refl _) hlt)
            · omega
          subst hi
          simp only [List.getElem?_append_right (Nat.le_refl _), Nat.sub_self,
            List.getElem?_cons_zero, Option.some.injEq] at hy
          rw [← hy, List.take_left]
        · rw [State.run_of_more hn]
          have whole : before ++ x :: rest = before ++ taken ++ r := by
            rw [hsplit, List.append_assoc]
          have hr : r.length < n := by
            have := congrArg List.length hsplit
            simp only [List.length_append] at this
            omega
          rw [whole] at hp hno ⊢
          refine (ih r.length hr reads hp rfl).back ?_ hno
          simp

-- ============================================================== verdicts

/-- What is said about a character that offends. -/
def offenceMessage (x : Char) : String :=
  if x = ')' then "unopened group"
  else "repetition operator missing expression"

theorem offence_message (x : Char) :
    (Reads.offence x).message = offenceMessage x := by
  unfold Reads.offence offenceMessage
  split <;> rfl

theorem ofPattern_endsFrom {p : List Char} (hp : IsPlain p) :
    EndsFrom p 0 (Node.ofPattern p) := (Reads.start p).run hp

/-- A pattern of groups, alternatives and uncounted repetitions is judged
by a scan of its text: the first character that offends is reported; if
there is none, the last parenthesis that is never closed; if there is
none either, nothing but the nesting and the size can be objected to. -/
theorem check_of_isPlain {pattern : String} (hp : IsPlain pattern.toList) :
    let tooDeep (nesting : Nat) :=
      s!"exceed the maximum number of nested parentheses/brackets ({nesting})"
    (∀ (l : Limits) i x, OffendsFirst pattern.toList i →
        pattern.toList[i]? = some x →
          l.check pattern = .error (.syntaxError ⟨offenceMessage x, some i⟩)) ∧
    (∀ (l : Limits) i is, (∀ j, ¬ Offends pattern.toList j) →
      openParens pattern.toList = i :: is →
      l.check pattern = .error (.syntaxError ⟨"unclosed group", some i⟩)) ∧
    ((∀ j, ¬ Offends pattern.toList j) → openParens pattern.toList = [] →
      (∀ (l : Limits) d, l.check pattern = .error (.syntaxError d) →
        d.message = tooDeep l.nesting) ∧
      ∃ depth, ∀ l : Limits, depth ≤ l.nesting →
        l.check pattern = .ok () ∨
          l.check pattern = .error (.tooLarge l.size)) := by
  intro tooDeep
  have ends := ofPattern_endsFrom hp
  refine ⟨fun l i x hfirst hx => ?_, fun l i is hnone hopen => ?_,
    fun hnone hclosed => ?_⟩
  · have fault :=
      ends.offence i x (Nat.zero_le i) hx hfirst.1 fun j _ hj => hfirst.2 j hj
    have hi : i ≤ pattern.toList.length :=
      Nat.le_of_lt (List.getElem?_eq_some_iff.1 hx).1
    rw [Limits.check_of_fault (analyse_of_unreadable fault),
      Diagnostic.ofFault, charOffset_take hi, offence_message]
  · have fault := ends.unclosed (fun j _ => hnone j) i is hopen
    have hi : i ≤ pattern.toList.length :=
      Nat.le_of_lt (lt_length_of_mem_openParens i (by simp [hopen]))
    rw [Limits.check_of_fault (analyse_of_unreadable fault),
      Diagnostic.ofFault, charOffset_take hi]
    rfl
  · obtain ⟨x, hx, plain⟩ := ends.closed (fun j _ => hnone j) hclosed
    obtain ⟨k, hk⟩ := plain.matcher (m := {}) rfl
    have within {l : Limits} (hb : x.beyond? l.nesting = none) :
        l.check pattern
          = if k.fits l.size then .ok () else .error (.tooLarge l.size) := by
      refine Limits.check_of_matcher ?_
      rw [analyse_of_within hx hb, hk]
      rfl
    refine ⟨fun l d hd => ?_, x.depth, fun l hl => ?_⟩
    · cases hb : x.beyond? l.nesting with
      | none =>
          rw [within hb] at hd
          split at hd <;> cases hd
      | some n =>
          rw [Limits.check_of_fault (analyse_of_beyond hx hb)] at hd
          cases hd
          rfl
    · rw [within ((Node.beyond?_eq_none_iff l.nesting x).2 hl)]
      split
      · exact .inl rfl
      · exact .inr rfl

/-- A star after a bar, and two parentheses that are never closed. -/
theorem check_star_after_bar :
    Limits.check {} "é(a|*)" =
        .error
          (.syntaxError ⟨"repetition operator missing expression", some 4⟩) ∧
      Limits.check ⟨0, 0⟩ "(é((b)|c*?"
        = .error (.syntaxError ⟨"unclosed group", some 2⟩) := by
  have first : OffendsFirst "é(a|*)".toList 4 := by decide +kernel
  have none (j : Nat) : ¬ Offends "(é((b)|c*?".toList j := by
    rcases Nat.lt_or_ge j 10 with hj | hj
    · revert j
      decide +kernel
    · exact not_offends_of_length_le hj
  exact ⟨(check_of_isPlain (by decide +kernel)).1 {} 4 '*' first
      (by decide +kernel),
    (check_of_isPlain (by decide +kernel)).2.1 ⟨0, 0⟩ 2 [0] none
    (by decide +kernel)⟩

end PatternCheck.Pattern
