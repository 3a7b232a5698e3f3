import PatternCheck.Proofs.Pattern.Printed.Counts
import PatternCheck.Proofs.Pattern.Printed.Ranges

/-
Expressions as trees, apart from any spelling, and the pattern that is
printed for each of them. The reader undoes the printing wherever the
printed text stands: what it comes to is the state in which the items of
the expression (`Expression.nodes`) have been added to the current branch
(`Expression.runs`). So a printed expression is read as its own tree
(`Expression.ofPattern_chars`).
-/

namespace PatternCheck.Pattern

open Text.Utf8 (length length_cons length_nil length_append utf8Size_ascii)

-- ========================================================= identifiers

/-- ASCII letters, digits and underscores, of which a digit may not come
first. -/
def isIdentifier : List Char → Bool
  | [] => false
  | c :: cs => (c = '_' || (isAsciiWord c && !isDigit c)) && cs.all fun x =>
    x = '_' || isAsciiWord x

/-- A name that is an identifier. -/
structure Identifier where
  chars : List Char
  ok : isIdentifier chars = true

/-- ASCII letters are letters, and ASCII digits are numbers. -/
theorem isAlphabetic_or_isNumeric {c : Char} (h : isAsciiWord c = true) :
    isAlphabetic c = true ∨ (isDigit c = true ∧ isNumeric c = true) := by
  simp only [isAsciiWord, Bool.or_eq_true] at h
  have ascii : c.toNat ≤ 0x7F := by
    simp only [isDigit, Bool.and_eq_true, decide_eq_true_eq, Char.le_def,
      UInt32.le_iff_toNat_le] at h
    rcases h with (⟨-, h⟩ | ⟨-, h⟩) | ⟨-, h⟩
      <;> exact Nat.le_trans h (by decide)
  rw [isAlphabetic, isNumeric, if_pos ascii, if_pos ascii, Bool.or_eq_true]
  rcases h with (h | h) | h
  · exact .inr ⟨h, h⟩
  · exact .inl (.inl h)
  · exact .inl (.inr h)

/-- An identifier is a name that a group may have. -/
theorem Identifier.isName (name : Identifier) : IsName name.chars := by
  obtain ⟨cs, ok⟩ := name
  cases cs with
  | nil => cases ok
  | cons c cs =>
      simp only [isIdentifier, Bool.and_eq_true, Bool.or_eq_true,
        List.all_eq_true, decide_eq_true_eq, Bool.not_eq_true'] at ok
      refine ⟨?_, fun x hx => ?_⟩
      · rcases ok.1 with rfl | ⟨word, noDigit⟩
        · rfl
        · rcases isAlphabetic_or_isNumeric word with h | ⟨digit, -⟩
          · simp [isNameStart, h]
          · rw [noDigit] at digit
            cases digit
      · rcases ok.2 x hx with rfl | word
        · rfl
        · rcases isAlphabetic_or_isNumeric word with h | ⟨-, h⟩
          · simp [isNameRest, h]
          · simp [isNameRest, h]

-- ========================================================= expressions

/-- The flags that an expression may set for a part of it. -/
def switches : List Flag :=
  [.caseInsensitive, .multiLine, .dotMatchesNewLine, .swapGreed]

/-- An expression. -/
inductive Expression where
  | text (cs : List Char)
  | dot
  | lineStart
  | lineEnd
  | ranges (rs : List CharRange) (ne : rs ≠ [])
  | concat (l r : Expression)
  | alternation (l r : Expression)
  | capture (e : Expression)
  | named (name : Identifier) (e : Expression)
  | flagged (f : Flag) (ok : f ∈ switches) (e : Expression)
  | repeated (e : Expression) (q : Quantifier) (lazy : Bool)

namespace Expression

/-- The pattern that is printed for an expression. -/
@[simp]
def chars : Expression → List Char
  | text cs => escape cs
  | dot => ['.']
  | lineStart => ['^']
  | lineEnd => ['$']
  | ranges rs _ => '[' :: (rs.flatMap CharRange.chars ++ [']'])
  | concat l r => l.chars ++ r.chars
  | alternation l r =>
    '(' :: '?' :: ':' :: (l.chars ++ '|' :: (r.chars ++ [')']))
  | capture e => '(' :: (e.chars ++ [')'])
  | named name e =>
    '(' :: '?' :: 'P' :: '<' :: (name.chars ++ '>' :: (e.chars ++ [')']))
  | flagged f _ e => '(' :: '?' :: f.letter :: ':' :: (e.chars ++ [')'])
  | repeated e q lazy =>
    '(' :: '?' :: ':' :: (e.chars ++ ')' :: (q.chars ++ lazyMark lazy))

/-- The names of groups, in the order in which they are printed. -/
@[simp]
def names : Expression → List String
  | concat l r => l.names ++ r.names
  | alternation l r => l.names ++ r.names
  | capture e => e.names
  | named name e => String.ofList name.chars :: e.names
  | flagged _ _ e => e.names
  | repeated e _ _ => e.names
  | _ => []

/-- The items that an expression is read as, if it is printed at `n`. -/
@[simp]
def nodes : Expression → Nat → List Node
  | text cs, n => State.literals n cs
  | dot, n => [.dot n]
  | lineStart, n => [.atom (.assertion n .lineStart)]
  | lineEnd, n => [.atom (.assertion n .lineEnd)]
  | ranges rs _, n =>
    [.bracketed n false (.ofItems (n + 1) (CharRange.items (n + 1) rs))]
  | concat l r, n => l.nodes n ++ r.nodes (n + length l.chars)
  | alternation l r, n =>
    let m := n + 3 + length l.chars + 1
    [.group n (.flagged []) (.alternation (n + 3)
      [.ofItems (n + 3) (l.nodes (n + 3)), .ofItems m (r.nodes m)])]
  | capture e, n => [.group n .capture (.ofItems (n + 1) (e.nodes (n + 1)))]
  | named name e, n =>
    let m := n + 4 + length name.chars + 1
    [.group n (.named (String.ofList name.chars)) (.ofItems m (e.nodes m))]
  | flagged f _ e, n =>
    [.group n (.flagged [(f, true)]) (.ofItems (n + 4) (e.nodes (n + 4)))]
  | repeated e q lazy, n =>
    [.repetition n q.count lazy
      (.group n (.flagged []) (.ofItems (n + 3) (e.nodes (n + 3))))]

variable {rest : List Char} {n : Nat}

/-- No printed expression begins with a question mark. -/
theorem head?_chars (e : Expression) (h : rest.head? ≠ some '?') :
    (e.chars ++ rest).head? ≠ some '?' := by
  induction e generalizing rest with
  | text cs =>
      cases cs with
      | nil => exact h
      | cons c cs =>
          obtain ⟨x, tail, hc, hx⟩ := escapeChar_cons c
          have noQuestion : x ≠ '?' := hx.ne (by simp [specials]) (by decide)
          simp [escape, hc, noQuestion]
  | concat l r ihl ihr =>
      rw [chars, List.append_assoc]
      exact ihl (ihr h)
  | _ => simp

end Expression

open State (outside run_escape run_dot run_lineStart run_lineEnd run_class
  run_bar run_capture
  run_named run_unnamed run_flagged run_close run_quantifier)

-- ============================================================== reading

/-- Two parts of an expression, read one after the other, have names of
their own. -/
private theorem split_names {xs ys names : List String}
    (nodup : (xs ++ ys).Nodup) (new : ∀ name ∈ xs ++ ys, name ∉ names) :
    xs.Nodup ∧ ys.Nodup ∧ (∀ name ∈ xs, name ∉ names) ∧
      ∀ name ∈ ys, name ∉ xs.reverse ++ names := by
  obtain ⟨nodupx, nodupy, apart⟩ := List.nodup_append.1 nodup
  refine ⟨nodupx, nodupy, fun name hx => new name (List.mem_append_left _ hx),
    fun name hy hmem => ?_⟩
  rcases List.mem_append.1 hmem with hx | hn
  · exact apart name (List.mem_reverse.1 hx) name hy rfl
  · exact new name (List.mem_append_right _ hy) hn

namespace Expression

/-- Reading what is printed for the expression adds its items to the
current branch, wherever it stands: in any groups, after any items, and
before any text that does not make a quantifier lazy. -/
def Runs (e : Expression) : Prop :=
  ∀ ⦃rest : List Char⦄ ⦃n : Nat⦄ ⦃l : Level⦄ ⦃gs : List OpenGroup⦄
    ⦃names : List String⦄,
    rest.head? ≠ some '?' → e.names.Nodup → (∀ name ∈ e.names, name ∉ names) →
    (outside (e.chars ++ rest) n l gs names).run =
      (outside rest (n + length e.chars) (l.pushAll (e.nodes n)) gs
        (e.names.reverse ++ names)).run

namespace Runs

variable {l r e : Expression}

/-- A class is read from its bracket to its bracket. -/
theorem ranges (rs : List CharRange) (ne : rs ≠ []) :
    (Expression.ranges rs ne).Runs := by
  intro rest n level gs names _ _ _
  have width : n + length (Expression.ranges rs ne).chars =
      n + 1 + length (rs.flatMap CharRange.chars) + 1 := by
    simp (disch := decide) only [chars, length_cons, length_append, length_nil,
      utf8Size_ascii]
    omega
  have text : (Expression.ranges rs ne).chars ++ rest =
      '[' :: (rs.flatMap CharRange.chars ++ ']' :: rest) := by
    simp
  rw [width, text]
  exact run_class false ne

/-- What comes next is read after what came first. -/
theorem concat (hl : l.Runs) (hr : r.Runs) : (Expression.concat l r).Runs := by
  intro rest n level gs names h nodup new
  obtain ⟨nodupl, nodupr, newl, newr⟩ := split_names nodup new
  rw [chars, List.append_assoc, hl (r.head?_chars h) nodupl newl,
    hr h nodupr newr, Level.pushAll_pushAll, length_append, Nat.add_assoc]
  simp

section Enclosed

variable {p : Nat} {kind : GroupKind} {outer : Level} {gs : List OpenGroup}
  {names : List String}

/-- An expression inside a group, up to the closing parenthesis. -/
theorem enclosed (he : e.Runs) (nodup : e.names.Nodup)
    (new : ∀ name ∈ e.names, name ∉ names) :
    (outside (e.chars ++ ')' :: rest) n (.start n)
        (⟨p, kind, outer, false⟩ :: gs) names).run =
      (outside rest (n + length e.chars + 1)
        (outer.push (.group p kind (.ofItems n (e.nodes n)))) gs
        (e.names.reverse ++ names)).run := by
  rw [he (by simp) nodup new, run_close, Level.start_pushAll_node]

end Enclosed

/-- Of two alternatives the bar ends the first. -/
theorem alternation (hl : l.Runs) (hr : r.Runs) :
    (Expression.alternation l r).Runs := by
  intro rest n level gs names h nodup new
  obtain ⟨nodupl, nodupr, newl, newr⟩ := split_names nodup new
  have width : n + length (Expression.alternation l r).chars =
      n + 3 + length l.chars + 1 + length r.chars + 1 := by
    simp (disch := decide) only [chars, length_cons, length_append, length_nil,
      utf8Size_ascii]
    omega
  have text : (Expression.alternation l r).chars ++ rest =
      '(' :: '?' :: ':' :: (l.chars ++ '|' :: (r.chars ++ ')' :: rest)) := by
    simp
  -- the bar ends the left branch and starts one for the right
  rw [width, text, run_unnamed, hl (by simp) nodupl newl, run_bar,
    hr (by simp) nodupr newr, run_close, Level.start_pushAll_nextBranch_node]
  simp [Level.push_eq]

theorem capture (he : e.Runs) : (Expression.capture e).Runs := by
  intro rest n level gs names h nodup new
  have width :
      n + length (Expression.capture e).chars
        = n + 1 + length e.chars + 1 := by
    simp (disch := decide) only [chars, length_cons, length_append, length_nil,
      utf8Size_ascii]
    omega
  have text :
      (Expression.capture e).chars ++ rest
        = '(' :: (e.chars ++ ')' :: rest) := by
    simp
  rw [width, text, run_capture (e.head?_chars (by simp)),
    he.enclosed nodup new]
  rfl

theorem named (name : Identifier) (he : e.Runs) :
    (Expression.named name e).Runs := by
  intro rest n level gs names h nodup new
  obtain ⟨fresh, nodup⟩ := List.nodup_cons.1 nodup
  have width : n + length (Expression.named name e).chars =
      n + 4 + length name.chars + 1 + length e.chars + 1 := by
    simp (disch := decide) only [chars, length_cons, length_append, length_nil,
      utf8Size_ascii]
    omega
  have text : (Expression.named name e).chars ++ rest =
      '(' :: '?' :: 'P' :: '<'
        :: (name.chars ++ '>' :: (e.chars ++ ')' :: rest)) := by
    simp
  -- inside the group its own name is taken, too
  have newInside :
      ∀ other ∈ e.names, other ∉ String.ofList name.chars :: names := by
    intro other hother
    rw [List.mem_cons, not_or]
    exact ⟨fun e => fresh (e ▸ hother), new other (by simp [hother])⟩
  rw [width, text, run_named name.isName (new _ (by simp)),
    he.enclosed nodup newInside]
  simp [Level.push_eq]

theorem flagged {f : Flag} (ok : f ∈ switches) (he : e.Runs) :
    (Expression.flagged f ok e).Runs := by
  intro rest n level gs names h nodup new
  have width :
      n + length (Expression.flagged f ok e).chars
        = n + 4 + length e.chars + 1 := by
    have letter : f.letter.utf8Size = 1 := by cases f <;> rfl
    simp (disch := decide) only [chars, length_cons, length_append, length_nil,
      utf8Size_ascii, letter]
    omega
  have text : (Expression.flagged f ok e).chars ++ rest =
      '(' :: '?' :: f.letter :: ':' :: (e.chars ++ ')' :: rest) := by
    simp
  rw [width, text, run_flagged (by rintro rfl; simp [switches] at ok),
    he.enclosed nodup new]
  rfl

/-- The operator repeats what is in the group before it. -/
theorem repeated (q : Quantifier) (lazy : Bool) (he : e.Runs) :
    (Expression.repeated e q lazy).Runs := by
  intro rest n level gs names h nodup new
  have width : n + length (Expression.repeated e q lazy).chars =
      n + 3 + length e.chars + 1 + length q.chars
        + length (lazyMark lazy) := by
    simp (disch := decide) only [chars, length_cons, length_append,
      utf8Size_ascii]
    omega
  have text : (Expression.repeated e q lazy).chars ++ rest =
      '(' :: '?' :: ':'
        :: (e.chars ++ ')' :: (q.chars ++ (lazyMark lazy ++ rest))) := by
    simp
  rw [width, text, run_unnamed, he.enclosed nodup new,
    run_quantifier q lazy rfl h]
  rfl

end Runs

/-- Reading any printed expression adds its items to the current branch. -/
theorem runs (e : Expression) : e.Runs := by
  induction e with
  | text cs => exact fun _ _ _ _ _ _ _ _ => run_escape cs
  | dot => exact fun _ _ _ _ _ _ _ _ => run_dot
  | lineStart => exact fun _ _ _ _ _ _ _ _ => run_lineStart
  | lineEnd => exact fun _ _ _ _ _ _ _ _ => run_lineEnd
  | ranges rs ne => exact .ranges rs ne
  | concat l r hl hr => exact hl.concat hr
  | alternation l r hl hr => exact hl.alternation hr
  | capture e he => exact he.capture
  | named name e he => exact he.named name
  | flagged f ok e he => exact he.flagged ok
  | repeated e q lazy he => exact he.repeated q lazy

end Expression

/-- A printed expression is read as its own tree. -/
theorem Expression.ofPattern_chars (e : Expression) (nodup : e.names.Nodup) :
    Node.ofPattern e.chars = .ok (.ofItems 0 (e.nodes 0)) := by
  have run : (State.outside (e.chars ++ []) 0 (.start 0) [] []).run = _ :=
    e.runs (by simp) nodup (by simp)
  rw [List.append_nil] at run
  have done :
      (State.outside [] (0 + length e.chars)
        ((Level.start 0).pushAll (e.nodes 0)) []
        (e.names.reverse ++ [])).next
          = .ok (.done ((Level.start 0).pushAll (e.nodes 0)).node) := rfl
  rw [Node.ofPattern]
  exact run.trans
    ((State.run_of_done done).trans (by rw [Level.start_pushAll_node]))

end PatternCheck.Pattern
