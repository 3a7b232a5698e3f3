import PatternCheck.Pattern.Check
import PatternCheck.Proofs.Pattern.Depth
import PatternCheck.Proofs.Pattern.Known
import PatternCheck.Proofs.Pattern.Printed.Expression

/-
Every printed expression is accepted as far as its syntax goes. The tree
it is read as is known all through, since an expression has no properties
to ask for and does not touch Unicode; so within the nesting limit only
the size is left to decide (`Expression.check_chars`).
-/

namespace PatternCheck.Pattern

open Node (AllKnown allKnown_append)

/-- What has a meaning is rejected for its size at most. -/
theorem Limits.check_of_meaning {l : Limits} {pattern : String} {m : Matcher}
    (h : analyse l.nesting pattern.toList = .ok m) :
    l.check pattern = .ok ()
      ∨ l.check pattern = .error (.tooLarge l.size) := by
  rw [Limits.check_of_matcher h]
  split
  · exact .inl rfl
  · exact .inr rfl

/-- What is rejected for its size at most is not rejected for its syntax. -/
theorem Limits.not_syntaxError {l : Limits} {pattern : String}
    (h : l.check pattern = .ok ()
      ∨ l.check pattern = .error (.tooLarge l.size)) :
    ¬ ∃ d, l.check pattern = .error (.syntaxError d) := by
  rintro ⟨d, hd⟩
  rcases h with ok | large
  · rw [ok] at hd
    cases hd
  · rw [large] at hd
    cases hd

/-- A known tree that is not too deep has a meaning. -/
theorem analyse_of_known {n : Nat} {cs : List Char} {x : Node}
    (read : Node.ofPattern cs = .ok x) (deep : x.depth ≤ n) (known : x.Known) :
    ∃ m, analyse n cs = .ok m := by
  obtain ⟨⟨m, after⟩, hm, -⟩ := Node.Known.matcher (m := {}) rfl known
  refine ⟨m, ?_⟩
  rw [analyse_of_within read ((Node.beyond?_eq_none_iff _ _).2 deep), hm]
  rfl

/-- What is read as a known tree is rejected for its depth or its size at
most. -/
theorem Limits.check_of_known {l : Limits} {cs : List Char} {x : Node}
    (read : Node.ofPattern cs = .ok x) (deep : x.depth ≤ l.nesting)
    (known : x.Known) :
    l.check (String.ofList cs) = .ok ()
      ∨ l.check (String.ofList cs) = .error (.tooLarge l.size) := by
  obtain ⟨m, hm⟩ := analyse_of_known read deep known
  exact check_of_meaning (by rwa [String.toList_ofList])

/-- Ranges ask for nothing unknown. -/
theorem CharRange.allKnown_items (rs : List CharRange) :
    ∀ n, ClassSet.AllKnown (CharRange.items n rs) := by
  induction rs with
  | nil => exact fun _ => trivial
  | cons _ _ ih => exact fun _ => ⟨trivial, ih _⟩

theorem ClassSet.AllKnown.ofItems {items : List ClassSet}
    (h : ClassSet.AllKnown items) (n : Nat) :
    (ClassSet.ofItems n items).Known := by
  cases items with
  | nil => trivial
  | cons x rest =>
      cases rest with
      | nil => exact h.1
      | cons _ _ => exact h

theorem State.allKnown_literals (cs : List Char) :
    ∀ n, AllKnown (State.literals n cs) := by
  induction cs with
  | nil => exact fun _ => trivial
  | cons _ _ ih => exact fun _ => ⟨trivial, ih _⟩

namespace Expression

/-- What an expression is read as is known. -/
theorem allKnown_nodes (e : Expression) : ∀ n, AllKnown (e.nodes n) := by
  induction e with
  | text cs => exact State.allKnown_literals cs
  | dot => exact fun _ => ⟨trivial, trivial⟩
  | lineStart => exact fun _ => ⟨trivial, trivial⟩
  | lineEnd => exact fun _ => ⟨trivial, trivial⟩
  | ranges rs _ =>
      exact fun _ => ⟨(CharRange.allKnown_items rs _).ofItems _, trivial⟩
  | concat l r ihl ihr => exact fun _ => allKnown_append.2 ⟨ihl _, ihr _⟩
  | alternation l r ihl ihr =>
      exact fun _ =>
        ⟨⟨List.not_mem_nil, (ihl _).ofItems _, (ihr _).ofItems _, trivial⟩,
          trivial⟩
  | capture e ih => exact fun _ => ⟨⟨trivial, (ih _).ofItems _⟩, trivial⟩
  | named name e ih => exact fun _ => ⟨⟨trivial, (ih _).ofItems _⟩, trivial⟩
  | flagged f ok e ih =>
      have keeps : FlagChanges.KeepUnicode [(f, true)] := by
        simp [FlagChanges.KeepUnicode]
      exact fun _ => ⟨⟨keeps, (ih _).ofItems _⟩, trivial⟩
  | repeated e q lazy ih =>
      exact fun _ => ⟨⟨List.not_mem_nil, (ih _).ofItems _⟩, trivial⟩

/-- Where nesting may go as deep as its tree does, a printed expression
has a meaning. -/
theorem analyse_chars (e : Expression) (distinct : e.names.Nodup) {n : Nat}
    (deep : (Node.ofItems 0 (e.nodes 0)).depth ≤ n) :
    ∃ m, analyse n e.chars = .ok m :=
  analyse_of_known (e.ofPattern_chars distinct) deep
    ((e.allKnown_nodes 0).ofItems 0)

/-- A printed expression whose groups have names of their own is read as a
tree, and where nesting may go as deep as that tree does, it is never
rejected but for its size. -/
theorem check_chars (e : Expression) (distinct : e.names.Nodup) :
    ∃ x, Node.ofPattern e.chars = .ok x ∧ ∀ l : Limits, x.depth ≤ l.nesting →
      l.check (String.ofList e.chars) = .ok () ∨
        l.check (String.ofList e.chars) = .error (.tooLarge l.size) := by
  refine ⟨_, e.ofPattern_chars distinct, fun l deep => ?_⟩
  obtain ⟨m, hm⟩ := e.analyse_chars distinct deep
  exact Limits.check_of_meaning (by rwa [String.toList_ofList])

/-- Four digits under a name, then a full stop or the end of a line, over
and over. -/
def years : Expression :=
  repeated
    (concat
      (named ⟨['y'], by decide⟩
        (repeated (ranges [⟨'0', '9', by decide⟩] (by simp))
          (.exactly 4 (by decide)) false))
      (alternation (text ['.']) (flagged .multiLine (by decide) lineEnd)))
    .star true

example :
    String.ofList years.chars
      = "(?:(?P<y>(?:[0-9])\x7b4\x7d)(?:\\.|(?m:$)))*?" := by
  decide +kernel

/-- With just enough nesting, these years are rejected for their size at
most. -/
theorem check_chars_years :
    years.names.Nodup ∧
      ∃ x, Node.ofPattern years.chars = .ok x ∧ x.depth = 7 ∧
        (Limits.check ⟨10485760, 7⟩ (String.ofList years.chars) = .ok () ∨
          Limits.check ⟨10485760, 7⟩ (String.ofList years.chars) =
            .error (.tooLarge 10485760)) := by
  have distinct : years.names.Nodup := by decide
  obtain ⟨x, read, check⟩ := years.check_chars distinct
  have depth : (Node.ofPattern years.chars).map Node.depth = .ok 7 := by
    decide +kernel
  have deep : x.depth = 7 := by
    rw [read] at depth
    exact Except.ok.inj depth
  exact ⟨distinct, x, read, deep, check ⟨10485760, 7⟩ (Nat.le_of_eq deep)⟩

end Expression

end PatternCheck.Pattern
