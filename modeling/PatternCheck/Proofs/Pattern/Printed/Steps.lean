import PatternCheck.Proofs.Pattern.Printed.Escape

/-
Single items outside of brackets, read from a state with nothing unusual
about it (`State.outside`): verbose mode is off, and no class is open.
Each lemma says to which state reading comes after one item, for any text
that follows and whatever is open around it; reading on from there is
reading on from the state before (`run_of_more`).
-/

namespace PatternCheck.Pattern

open Text.Utf8 (length length_cons length_nil length_append)

variable {rest : List Char} {n : Nat}

-- ============================================================== levels

namespace Level

/-- Adds items to the current branch, in order. -/
def pushAll (l : Level) (ns : List Node) : Level :=
  { l with items := ns.reverse ++ l.items }

theorem push_eq (l : Level) (x : Node) : l.push x = l.pushAll [x] := rfl

@[simp] theorem pushAll_pushAll (l : Level) (ns ms : List Node) :
    (l.pushAll ns).pushAll ms = l.pushAll (ns ++ ms) := by
  simp [pushAll]

/-- A level of one branch. -/
theorem start_pushAll_node (n : Nat) (ns : List Node) :
    ((start n).pushAll ns).node = .ofItems n ns := by
  simp [start, pushAll, node, branch, Node.ofBranches]

/-- A level of two branches. -/
theorem start_pushAll_nextBranch_node (n m : Nat) (ns ms : List Node) :
    ((((start n).pushAll ns).nextBranch m).pushAll ms).node =
      .alternation n [.ofItems n ns, .ofItems m ms] := by
  simp [start, pushAll, nextBranch, node, branch, Node.ofBranches]

end Level

-- =============================================================== names

/-- The names that a group may have. -/
def IsName : List Char → Prop
  | [] => False
  | c :: cs => isNameStart c = true ∧ ∀ x ∈ cs, isNameRest x = true

/-- A name is read up to the angle. -/
theorem readName_of_rest {cs : List Char} (h : ∀ c ∈ cs, isNameRest c = true) :
    ∀ (acc : List Char) (n : Nat), readName false acc (cs ++ '>' :: rest) n =
      .ok (acc.reverse ++ cs, ⟨'>' :: rest, n + length cs⟩) := by
  induction cs with
  | nil => intro acc n; simp [readName]
  | cons c cs ih =>
      intro acc n
      have hc : isNameRest c = true := h c (by simp)
      have notAngle : c ≠ '>' := by rintro rfl; exact absurd hc (by decide)
      have char : isNameChar false c = true := hc
      rw [List.cons_append, readName, if_neg notAngle, if_pos char,
        ih (fun x hx => h x (by simp [hx]))]
      simp [Nat.add_assoc]

/-- A name ends at its angle. -/
theorem readName_of_isName {cs : List Char} (h : IsName cs) (n : Nat) :
    readName true [] (cs ++ '>' :: rest) n
      = .ok (cs, ⟨'>' :: rest, n + length cs⟩) := by
  cases cs with
  | nil => exact h.elim
  | cons c cs =>
      have notAngle : c ≠ '>' := by rintro rfl; exact absurd h.1 (by decide)
      have char : isNameChar true c = true := h.1
      rw [List.cons_append, readName, if_neg notAngle, if_pos char,
        readName_of_rest h.2]
      simp [Nat.add_assoc]

/-- A name that is not taken yet names a group. -/
theorem readNamed_of_new {cs : List Char} {names : List String} (h : IsName cs)
    (hnew : String.ofList cs ∉ names) :
    readNamed names ⟨cs ++ '>' :: rest, n⟩ =
      .ok (.group (.named (String.ofList cs)), ⟨rest, n + length cs + 1⟩) := by
  have notEmpty : (String.ofList cs).isEmpty = false := by
    cases cs with
    | nil => exact h.elim
    | cons c cs => simp
  have notTaken : names.contains (String.ofList cs) = false := by
    simpa using hnew
  unfold readNamed
  rw [readName_of_isName h]
  simp only [notEmpty, notTaken]
  rfl

/-- A parenthesis without a question mark opens a group that captures. -/
theorem Opening.read_capture (h : rest.head? ≠ some '?')
    (names : List String) :
    Opening.read false names ⟨'(' :: rest, n⟩
      = .ok (.group .capture, ⟨rest, n + 1⟩) := by
  unfold Opening.read Cursor.step Cursor.space Cursor.advance nameStart?
    isLookAround
  cases rest with
  | nil => rfl
  | cons y r =>
      have hy : y ≠ '?' := fun e => h (by rw [e]; rfl)
      simp [hy]
      rfl

namespace State

-- ====================================================== states outside

/-- A state outside of brackets. In the groups around it, as in itself,
verbose mode is off. -/
def outside (cs : List Char) (n : Nat) (l : Level) (gs : List OpenGroup)
    (names : List String) : State :=
  { cursor := ⟨cs, n⟩, level := l, groups := gs, names }

variable {l : Level} {gs : List OpenGroup} {names : List String}

-- =============================================================== atoms

/-- A point is an item by itself. -/
theorem run_dot : (outside ('.' :: rest) n l gs names).run =
    (outside rest (n + 1) (l.push (.dot n)) gs names).run := run_of_more rfl

/-- So are both ends of a line. -/
theorem run_lineStart : (outside ('^' :: rest) n l gs names).run =
    (outside rest (n + 1) (l.push (.atom (.assertion n .lineStart))) gs
      names).run :=
  run_of_more rfl

theorem run_lineEnd : (outside ('$' :: rest) n l gs names).run =
    (outside rest (n + 1) (l.push (.atom (.assertion n .lineEnd))) gs
      names).run :=
  run_of_more rfl

/-- Where no operator stands an atom is read. -/
theorem nextOutside_atom {s : State} {x : Char} {a : Atom} {after : Cursor}
    (hx : BeginsEscaped x)
    (ha : Atom.read s.verbose ⟨x :: rest, n⟩ = .ok (a, after)) :
    s.nextOutside ⟨x :: rest, n⟩ = .ok (.more (s.push (.atom a) after)) := by
  have noOperator :
      x ∉ ['(', ')', '|', '[', '?', '*', '+', '{', '.', '^', '$'] := by
    intro h
    simp only [List.mem_cons, List.not_mem_nil, or_false] at h
    rcases h with rfl | rfl | rfl | rfl | rfl | rfl | rfl | rfl | rfl | rfl
      | rfl <;> exact hx.ne (by simp [specials]) (by decide) rfl
  simp only [List.mem_cons, List.not_mem_nil, or_false, not_or] at noOperator
  unfold nextOutside
  dsimp only
  split <;> simp_all

/-- A character is read as itself, with a backslash or without. -/
theorem run_escapeChar (c : Char) :
    (outside (escapeChar c ++ rest) n l gs names).run =
    (outside rest (n + length (escapeChar c))
      (l.push (.atom (.literal { pos := n, char := c }))) gs names).run := by
  obtain ⟨x, tail, hc, hx⟩ := escapeChar_cons c
  have atom := Atom.read_escapeChar c rest n
  rw [hc, List.cons_append] at atom ⊢
  exact run_of_more (nextOutside_atom hx atom)

/-- The literals of an escaped text, the first of which stands at `n`. -/
def literals (n : Nat) : List Char → List Node
  | [] => []
  | c :: cs =>
    .atom (.literal { pos := n, char := c })
      :: literals (n + length (escapeChar c)) cs

/-- A text is read as its characters, one after the other. -/
theorem run_escape (cs : List Char) : ∀ {n : Nat} {l : Level},
    (outside (escape cs ++ rest) n l gs names).run =
      (outside rest (n + length (escape cs)) (l.pushAll (literals n cs)) gs
        names).run := by
  induction cs with
  | nil => intro n l; rfl
  | cons c cs ih =>
      intro n l
      have split : escape (c :: cs) = escapeChar c ++ escape cs :=
        List.flatMap_cons
      rw [split, List.append_assoc, run_escapeChar, ih, length_append,
        Nat.add_assoc, Level.push_eq, Level.pushAll_pushAll]
      rfl

-- ============================================================== groups

/-- A bar ends an alternative, and the next one begins. -/
theorem run_bar : (outside ('|' :: rest) n l gs names).run =
    (outside rest (n + 1) (l.nextBranch (n + 1)) gs names).run :=
  run_of_more rfl

/-- A parenthesis without a mark after it opens a group that captures. -/
theorem run_capture (h : rest.head? ≠ some '?') :
    (outside ('(' :: rest) n l gs names).run =
    (outside rest (n + 1) (.start (n + 1)) (⟨n, .capture, l, false⟩ :: gs)
      names).run := by
  have opening :
      (outside ('(' :: rest) n l gs names).openGroup ⟨'(' :: rest, n⟩ =
        .ok (outside rest (n + 1) (.start (n + 1))
          (⟨n, .capture, l, false⟩ :: gs) names) := by
    simp only [openGroup, outside, Opening.read_capture h]
  exact run_of_more (congrArg (Except.map Step.more) opening)

/-- A parenthesis that begins a group with a name. -/
theorem run_opening {cs : List Char} {name : String} {k : Nat}
    (h : Opening.read false names ⟨'(' :: cs, n⟩
      = .ok (.group (.named name), ⟨rest, k⟩)) :
    (outside ('(' :: cs) n l gs names).run =
      (outside rest k (.start k) (⟨n, .named name, l, false⟩ :: gs)
        (name :: names)).run := by
  have opened : (outside ('(' :: cs) n l gs names).openGroup ⟨'(' :: cs, n⟩ =
      .ok (outside rest k (.start k) (⟨n, .named name, l, false⟩ :: gs)
        (name :: names)) := by
    simp only [openGroup, outside, h]
  exact run_of_more (congrArg (Except.map Step.more) opened)

/-- A group with a name that is not taken opens, and takes it. -/
theorem run_named {cs : List Char} (h : IsName cs)
    (hnew : String.ofList cs ∉ names) :
    (outside ('(' :: '?' :: 'P' :: '<' :: (cs ++ '>' :: rest)) n l gs
        names).run =
      (outside rest (n + 4 + length cs + 1) (.start (n + 4 + length cs + 1))
        (⟨n, .named (String.ofList cs), l,
          false⟩ :: gs) (String.ofList cs :: names)).run :=
  run_opening (readNamed_of_new h hnew)

/-- A group that captures nothing opens. -/
theorem run_unnamed : (outside ('(' :: '?' :: ':' :: rest) n l gs names).run =
    (outside rest (n + 3) (.start (n + 3)) (⟨n, .flagged [], l, false⟩ :: gs)
      names).run :=
  run_of_more rfl

/-- A group with a flag opens; only the flag for blanks would change how the
rest is read. -/
theorem run_flagged {f : Flag} (h : f ≠ .verbose) :
    (outside ('(' :: '?' :: f.letter :: ':' :: rest) n l gs names).run =
      (outside rest (n + 4) (.start (n + 4))
        (⟨n, .flagged [(f, true)], l, false⟩ :: gs) names).run := by
  refine run_of_more ?_
  cases f with
  | verbose => exact absurd rfl h
  | _ => rfl

/-- A group closes, as an item of what is around it. -/
theorem run_close {p : Nat} {kind : GroupKind} {outer : Level} :
    (outside (')' :: rest) n l (⟨p, kind, outer, false⟩ :: gs) names).run =
      (outside rest (n + 1) (outer.push (.group p kind l.node)) gs
        names).run := run_of_more rfl

end State

end PatternCheck.Pattern
