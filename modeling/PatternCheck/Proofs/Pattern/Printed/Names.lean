import PatternCheck.Proofs.Pattern.Depth
import PatternCheck.Proofs.Pattern.Place
import PatternCheck.Proofs.Pattern.Printed.Accepted
import Mathlib.Data.List.Induction

/-
Names of groups. Groups side by side, each with a name in one of the two
spellings, are read one after the other as long as each name is new; what
is remembered of the groups before is their names and nothing else
(`State.run_groups`). The first name that is not new is refused where it
stands.
-/

namespace PatternCheck.Pattern

open State (outside)
open Text.Utf8 (length length_cons length_nil length_append)

-- ============================================================== groups

/-- A group with a name, around a letter. -/
structure NamedGroup where
  /-- Whether a `P` stands in front of the angle. -/
  marked : Bool
  name : String
  legal : IsName name.toList

namespace NamedGroup

/-- What is written in front of the name. -/
def front (g : NamedGroup) : List Char :=
  '(' :: '?' :: (if g.marked then ['P', '<'] else ['<'])

def chars (g : NamedGroup) : List Char :=
  g.front ++ (g.name.toList ++ ['>', 'a', ')'])

/-- The tree of a group that stands at `n`. -/
def node (g : NamedGroup) (n : Nat) : Node :=
  .group n (.named g.name) (.atom (.literal
    { pos := n + length g.front + length g.name.toList + 1, char := 'a' }))

/-- The trees of groups that stand side by side, the first one at `n`. -/
def nodes (n : Nat) : List NamedGroup → List Node
  | [] => []
  | g :: gs => g.node n :: nodes (n + length g.chars) gs

variable {rest : List Char} {n : Nat} {names : List String}

/-- In both spellings what follows the angle is read as a name. -/
theorem read_front (g : NamedGroup) :
    Opening.read false names ⟨g.front ++ (g.name.toList ++ '>' :: rest), n⟩ =
      readNamed names ⟨g.name.toList ++ '>' :: rest, n + length g.front⟩ := by
  obtain ⟨marked, name, legal⟩ := g
  cases marked with
  | true => rfl
  | false =>
      obtain ⟨c, cs, hname⟩ : ∃ c cs, name.toList = c :: cs := by
        cases h : name.toList with
        | nil => rw [h] at legal; exact legal.elim
        | cons c cs => exact ⟨c, cs, rfl⟩
      -- these two would make the group one that looks around
      rw [hname] at legal
      have noEqual : c ≠ '=' := by rintro rfl; exact absurd legal.1 (by decide)
      have noBang : c ≠ '!' := by rintro rfl; exact absurd legal.1 (by decide)
      have after :
          (⟨'(' :: '?' :: '<' :: c :: (cs ++ '>' :: rest),
            n⟩ : Cursor).step false =
            ⟨'?' :: '<' :: c :: (cs ++ '>' :: rest), n + 1⟩ := rfl
      have behind :
          isLookAround ('?' :: '<' :: c :: (cs ++ '>' :: rest)) = false := by
        simp [isLookAround, noEqual, noBang]
      simp only [front, hname, List.cons_append, List.nil_append,
        Bool.false_eq_true, if_false]
      unfold Opening.read
      dsimp only
      rw [after]
      simp only [behind]
      rfl

/-- The bytes of a group, part by part. -/
theorem length_chars (g : NamedGroup) :
    length g.chars = length g.front + length g.name.toList + 1 + 1 + 1 := by
  simp only [chars, length_append, length_cons, length_nil, Nat.add_assoc]
  rfl

/-- A new name makes the group one with that name. -/
theorem read_of_new (g : NamedGroup) (new : g.name ∉ names) :
    Opening.read false names ⟨g.front ++ (g.name.toList ++ '>' :: rest), n⟩ =
      .ok (.group (.named g.name),
        ⟨rest, n + length g.front + length g.name.toList + 1⟩) := by
  rw [read_front]
  have named :
      readNamed names ⟨g.name.toList ++ '>' :: rest, n + length g.front⟩ = _ :=
    readNamed_of_new g.legal (by rwa [String.ofList_toList])
  rwa [String.ofList_toList] at named

/-- A name that is taken is refused. -/
theorem read_of_taken (g : NamedGroup) (taken : g.name ∈ names) :
    Opening.read false names ⟨g.front ++ (g.name.toList ++ '>' :: rest), n⟩ =
      .error ⟨.nameDuplicate, n + length g.front⟩ := by
  have notEmpty : g.name.isEmpty = false := by
    refine Bool.eq_false_iff.2 fun empty => ?_
    have legal := g.legal
    rw [String.isEmpty_iff.1 empty] at legal
    exact legal
  have contained : names.contains g.name = true := by simpa using taken
  rw [read_front]
  unfold readNamed
  rw [readName_of_isName g.legal]
  simp only [String.ofList_toList, notEmpty, contained]
  rfl

end NamedGroup

namespace State

variable {rest : List Char} {n : Nat} {l : Level} {gs : List OpenGroup}
  {names : List String}

/-- A group with a new name becomes an item, and its name is taken. -/
theorem run_group (g : NamedGroup) (new : g.name ∉ names) :
    (outside (g.chars ++ rest) n l gs names).run =
      (outside rest (n + length g.chars) (l.push (g.node n)) gs
        (g.name :: names)).run := by
  have text :
      g.chars ++ rest = g.front
        ++ (g.name.toList ++ '>' :: 'a' :: ')' :: rest) := by
    simp [NamedGroup.chars]
  have opened :
      (outside (g.front ++ (g.name.toList ++ '>' :: 'a' :: ')' :: rest)) n l gs
        names).run =
        (outside ('a' :: ')' :: rest)
          (n + length g.front + length g.name.toList + 1)
          (.start (n + length g.front + length g.name.toList + 1))
          (⟨n, .named g.name, l, false⟩ :: gs) (g.name :: names)).run :=
    run_opening (g.read_of_new new)
  have letter : ∀ {k : Nat} {inner : List OpenGroup} {taken : List String},
      (outside ('a' :: ')' :: rest) k (.start k) inner taken).run =
        (outside (')' :: rest) (k + 1)
          ((Level.start k).pushAll
            [.atom (.literal { pos := k, char := 'a' })]) inner taken).run :=
    run_escapeChar 'a'
  rw [text, opened, letter, run_close, Level.start_pushAll_node,
    g.length_chars]
  simp only [← Nat.add_assoc]
  rfl

/-- A group whose name is taken is refused, at the name. -/
theorem run_taken (g : NamedGroup) (taken : g.name ∈ names) :
    (outside (g.chars ++ rest) n l gs names).run =
      .error ⟨.nameDuplicate, n + length g.front⟩ := by
  have text :
      g.chars ++ rest = g.front
        ++ (g.name.toList ++ '>' :: 'a' :: ')' :: rest) := by
    simp [NamedGroup.chars]
  have refused :
      (outside (g.chars ++ rest) n l gs names).openGroup ⟨g.chars ++ rest, n⟩ =
        .error ⟨.nameDuplicate, n + length g.front⟩ := by
    rw [text]
    simp only [openGroup, outside, g.read_of_taken taken]
  exact run_of_error (congrArg (Except.map Step.more) refused)

/-- Groups with names of their own become items one after the other. -/
theorem run_groups (groups : List NamedGroup) :
    ∀ {n : Nat} {l : Level} {names : List String},
    (groups.map NamedGroup.name).Nodup → (∀ g ∈ groups, g.name ∉ names) →
      (outside (groups.flatMap NamedGroup.chars ++ rest) n l gs names).run =
        (outside rest (n + length (groups.flatMap NamedGroup.chars))
          (l.pushAll (NamedGroup.nodes n groups)) gs
          ((groups.map NamedGroup.name).reverse ++ names)).run := by
  induction groups with
  | nil => intro n l names _ _; rfl
  | cons g groups ih =>
      intro n l names nodup new
      obtain ⟨fresh, nodup⟩ := List.nodup_cons.1 nodup
      -- the names of the groups that follow are new after this one, too
      have newAfter : ∀ h ∈ groups, h.name ∉ g.name :: names := by
        intro h hmem
        rw [List.mem_cons, not_or]
        exact ⟨fun e => fresh (e ▸ List.mem_map_of_mem hmem),
          new h (List.mem_cons_of_mem _ hmem)⟩
      rw [List.flatMap_cons, List.append_assoc,
        run_group g (new g List.mem_cons_self), ih nodup newAfter,
        length_append, Nat.add_assoc, Level.push_eq, Level.pushAll_pushAll]
      simp [NamedGroup.nodes]

end State

-- ============================================================= patterns

namespace NamedGroup

/-- Groups with names of their own are read as one item each. -/
theorem ofPattern_flatMap {groups : List NamedGroup}
    (nodup : (groups.map name).Nodup) :
    Node.ofPattern (groups.flatMap chars)
      = .ok (.ofItems 0 (nodes 0 groups)) := by
  have run :
      (outside (groups.flatMap chars ++ []) 0 (.start 0) [] []).run = _ :=
    State.run_groups groups nodup (by simp)
  rw [List.append_nil] at run
  refine run.trans ((State.run_of_done rfl).trans ?_)
  exact congrArg Except.ok (Level.start_pushAll_node 0 _)

/-- The first name that is taken is refused. -/
theorem ofPattern_repeated {before after : List NamedGroup} {g : NamedGroup}
    (nodup : (before.map name).Nodup) (taken : g.name ∈ before.map name) :
    Node.ofPattern ((before ++ g :: after).flatMap chars) =
      .error ⟨.nameDuplicate, length (before.flatMap chars ++ g.front)⟩ := by
  have text : (before ++ g :: after).flatMap chars =
      before.flatMap chars ++ (g.chars ++ after.flatMap chars) := by
    simp
  have run :
      (outside (before.flatMap chars ++ (g.chars ++ after.flatMap chars)) 0
        (.start 0) [] []).run = _ := State.run_groups before nodup (by simp)
  rw [text, length_append, ← Nat.zero_add (length (before.flatMap chars))]
  exact run.trans (State.run_taken g (by simpa using taken))

/-- Groups around a letter are one level each. -/
theorem depths_nodes (groups : List NamedGroup) :
    ∀ n, Node.depths (nodes n groups) ≤ 1 := by
  induction groups with
  | nil => exact fun _ => Nat.zero_le _
  | cons g groups ih => exact fun _ => Nat.max_le.2 ⟨Nat.le_refl _, ih _⟩

theorem allKnown_nodes (groups : List NamedGroup) :
    ∀ n, Node.AllKnown (nodes n groups) := by
  induction groups with
  | nil => exact fun _ => trivial
  | cons g groups ih => exact fun _ => ⟨⟨trivial, trivial⟩, ih _⟩

-- ============================================================= checking

variable {l : Limits} {groups : List NamedGroup}

/-- Groups with names of their own are rejected for their size at most. -/
theorem check_of_nodup (deep : 2 ≤ l.nesting)
    (nodup : (groups.map name).Nodup) :
    l.check (String.ofList (groups.flatMap chars)) = .ok () ∨
      l.check (String.ofList (groups.flatMap chars))
        = .error (.tooLarge l.size) := by
  refine Limits.check_of_known (ofPattern_flatMap nodup) ?_
    ((allKnown_nodes groups 0).ofItems 0)
  have within := (Node.depth_ofItems 0 (nodes 0 groups)).2
  have flat := depths_nodes groups 0
  omega

/-- In a list with repetitions there is a first one. -/
theorem exists_first_repeat (h : ¬ (groups.map name).Nodup) :
    ∃ before g after, groups = before ++ g :: after ∧ (before.map name).Nodup ∧
      g.name ∈ before.map name := by
  induction groups using List.reverseRecOn with
  | nil => exact absurd List.nodup_nil h
  | append_singleton groups g ih =>
      by_cases nodup : (groups.map name).Nodup
      · refine ⟨groups, g, [], rfl, nodup, ?_⟩
        by_contra new
        exact h (by simpa [List.nodup_append, nodup] using new)
      · obtain ⟨before, g', after, rfl, first⟩ := ih nodup
        exact ⟨before, g', after ++ [g], by simp, first⟩

/-- The first group whose name occurred before is rejected where its name
stands. -/
theorem check_of_repeated {before after : List NamedGroup} {g : NamedGroup}
    (nodup : (before.map name).Nodup) (taken : g.name ∈ before.map name) :
    l.check (String.ofList ((before ++ g :: after).flatMap chars))
      = .error (.syntaxError
      ⟨Cause.nameDuplicate.message,
        some (before.flatMap chars ++ g.front).length⟩) := by
  have text :
      (before ++ g :: after).flatMap chars
        = (before.flatMap chars ++ g.front) ++
        (g.name.toList ++ ['>', 'a', ')'] ++ after.flatMap chars) := by
    simp [NamedGroup.chars]
  have refused : Node.ofPattern ((before ++ g :: after).flatMap chars) = _ :=
    ofPattern_repeated nodup taken
  rw [text] at refused ⊢
  exact Limits.check_of_unreadable refused

end NamedGroup

open NamedGroup in
/-- Groups with names side by side are in order as far as their syntax goes if
and only if no two of the names are the same; they are then rejected for
their size at most. Otherwise they are rejected at the name of the first
group whose name occurred before. -/
theorem check_names (l : Limits) (deep : 2 ≤ l.nesting)
    (groups : List NamedGroup) :
    ((¬ ∃ d, l.check (String.ofList (groups.flatMap chars))
      = .error (.syntaxError d)) ↔
        (groups.map name).Nodup) ∧
      ((groups.map name).Nodup →
        l.check (String.ofList (groups.flatMap chars)) = .ok () ∨
          l.check (String.ofList (groups.flatMap chars))
            = .error (.tooLarge l.size)) ∧
      (¬ (groups.map name).Nodup →
        ∃ before g after, groups = before ++ g :: after ∧
          (before.map name).Nodup ∧ g.name ∈ before.map name ∧
          l.check (String.ofList (groups.flatMap chars)) = .error (.syntaxError
            ⟨"duplicate capture group name",
              some (before.flatMap chars ++ g.front).length⟩)) := by
  have repeated (h : ¬ (groups.map name).Nodup) :
      ∃ before g after, groups = before ++ g :: after ∧
        (before.map name).Nodup ∧ g.name ∈ before.map name ∧
        l.check (String.ofList (groups.flatMap chars)) = .error (.syntaxError
          ⟨"duplicate capture group name",
            some (before.flatMap chars ++ g.front).length⟩) := by
    obtain ⟨before, g, after, split, nodup, taken⟩ := exists_first_repeat h
    exact ⟨before, g, after, split, nodup, taken,
      split ▸ check_of_repeated nodup taken⟩
  refine ⟨⟨fun inOrder => ?_, fun nodup => ?_⟩, check_of_nodup deep, repeated⟩
  · by_contra h
    obtain ⟨before, g, after, -, -, -, refused⟩ := repeated h
    exact inOrder ⟨_, refused⟩
  · exact Limits.not_syntaxError (check_of_nodup deep nodup)

/-- A name with brackets in it, in both spellings, with another one between
them. -/
def bracketNames : List NamedGroup :=
  [⟨true, "b.[1]", by decide, List.all_eq_true.1 (by decide)⟩,
    ⟨false, "_", by decide, List.all_eq_true.1 (by decide)⟩,
    ⟨false, "b.[1]", by decide, List.all_eq_true.1 (by decide)⟩]

/-- It is the second occurrence of the name that is refused, in whichever
spelling. -/
theorem check_names_brackets :
    2 ≤ (⟨10485760, 2⟩ : Limits).nesting ∧
      ¬ (bracketNames.map NamedGroup.name).Nodup ∧
      String.ofList (bracketNames.flatMap NamedGroup.chars) =
        "(?P<b.[1]>a)(?<_>a)(?<b.[1]>a)" ∧
      Limits.check ⟨10485760, 2⟩ "(?P<b.[1]>a)(?<_>a)(?<b.[1]>a)"
        = .error (.syntaxError
        ⟨"duplicate capture group name", some 22⟩) := by
  have twice : ¬ (bracketNames.map NamedGroup.name).Nodup := by decide
  have text : String.ofList (bracketNames.flatMap NamedGroup.chars) =
      "(?P<b.[1]>a)(?<_>a)(?<b.[1]>a)" := by decide
  obtain ⟨before, g, after, split, nodup, taken, refused⟩ :=
    (check_names ⟨10485760, 2⟩ (Nat.le_refl 2) bracketNames).2.2 twice
  rw [text] at refused
  refine ⟨Nat.le_refl 2, twice, text, ?_⟩
  -- only the third group can be the one whose name occurred before
  rcases before with _ | ⟨first, _ | ⟨second, _ | ⟨third, before⟩⟩⟩
  · exact absurd taken List.not_mem_nil
  · obtain ⟨rfl, rest⟩ := List.cons.inj split
    obtain ⟨rfl, -⟩ := List.cons.inj rest
    exact absurd taken (by decide)
  · obtain ⟨rfl, others⟩ := List.cons.inj split
    obtain ⟨rfl, rest⟩ := List.cons.inj others
    obtain ⟨rfl, -⟩ := List.cons.inj rest
    exact refused
  · exact absurd (congrArg List.length split) (by simp [bracketNames])

end PatternCheck.Pattern
