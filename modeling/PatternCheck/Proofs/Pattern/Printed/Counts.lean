import PatternCheck.Proofs.Pattern.Printed.Steps

/-
Repetitions. What stands before an operator is already an item of the
current branch and is replaced by its repetition (`run_quantifier`). A
count is written in decimal digits, which are read up to the first
character that is none (`readDecimal_digits`), however large it is and with
any number of zeros in front. The lower bound is judged before the upper
one, and each of them before the two are compared (`readCount_chars`).
-/

namespace PatternCheck.Pattern

open Text.Utf8 (length length_cons length_nil length_append)

variable {rest : List Char} {n : Nat}

-- ============================================================== digits

/-- A run of characters is read up to the first one that does not belong
to it; `acc` holds what was read before. -/
theorem Cursor.run_all {p : Char → Bool} {cs : List Char}
    (h : ∀ c ∈ cs, p c = true) {y : Char} (hy : p y = false)
    (rest : List Char) : ∀ (acc : List Literal) (n : Nat),
    ∃ ls, Cursor.run false p false acc (cs ++ y :: rest) n
      = (ls, ⟨y :: rest, n + length cs⟩) ∧
      ls.map (·.char) = acc.reverse.map (·.char) ++ cs := by
  induction cs with
  | nil => intro acc n; exact ⟨acc.reverse, by simp [Cursor.run, hy], by simp⟩
  | cons c cs ih =>
      intro acc n
      have hc : p c = true := h c (by simp)
      obtain ⟨ls, hrun, hls⟩ := ih (fun x hx => h x (by simp [hx]))
        ({ pos := n, char := c } :: acc) (n + c.utf8Size)
      refine ⟨ls, ?_, by simpa using hls⟩
      simp [Cursor.run, hc, hrun, Nat.add_assoc]

/-- A digit is no blank. -/
theorem isBlank_of_isDigit {c : Char} (h : isDigit c = true) :
    Text.isBlank c = false := by
  simp only [isDigit, Bool.and_eq_true, decide_eq_true_eq, Char.le_def,
    UInt32.le_iff_toNat_le] at h
  have lower : 0x30 ≤ c.toNat := h.1
  have upper : c.toNat ≤ 0x39 := h.2
  simp only [Text.isBlank, Bool.or_eq_false_iff, Bool.and_eq_false_iff,
    decide_eq_false_iff_not]
  omega

/-- Digits are a number, unless it is too large. -/
theorem readDecimal_digits {ds : List Char} (ne : ds ≠ [])
    (h : ∀ c ∈ ds, isDigit c = true) {y : Char} (hy : isDigit y = false)
    (blank : Text.isBlank y = false) :
    readDecimal false ⟨ds ++ y :: rest, n⟩ =
      (if countBound ≤ decimalValue ds then
        refuse .countInvalid n else .ok (decimalValue ds),
        ⟨y :: rest, n + length ds⟩) := by
  obtain ⟨ls, hrun, hls⟩ := Cursor.run_all h hy rest [] n
  have hls : ls.map (·.char) = ds := hls
  have before : Cursor.blanks (ds ++ y :: rest) n = ⟨ds ++ y :: rest, n⟩ := by
    obtain ⟨d, ds, rfl⟩ := List.exists_cons_of_ne_nil ne
    simp [Cursor.blanks, isBlank_of_isDigit (h d (by simp))]
  have notEmpty : ls.isEmpty = false := by
    cases ls with
    | nil => exact absurd hls.symm ne
    | cons l ls => rfl
  unfold readDecimal Cursor.collect
  simp only [before, hrun, hls, notEmpty, Cursor.blanks, blank]
  simp

/-- The digits of a number have its value. -/
theorem decimalValue_toDigits (m : Nat) :
    decimalValue (Nat.toDigits 10 m) = m := by
  have value :=
    Nat.ofDigitChars_toDigits (b := 10) (n := m) (by decide) (by decide)
  simpa [decimalValue, Nat.ofDigitChars, Nat.mul_comm 10] using value

theorem isDigit_of_mem_toDigits {m : Nat} {c : Char}
    (h : c ∈ Nat.toDigits 10 m) : isDigit c = true := by
  have digit := Nat.isDigit_of_mem_toDigits (by decide) (by decide) h
  unfold Char.isDigit at digit
  exact digit

-- ============================================================== bounds

/-- A bound of a count as it is written: its value, and how many zeros stand
in front of its digits. -/
structure Bound where
  value : Nat
  zeros : Nat

namespace Bound

/-- The digits of a bound. -/
def chars (b : Bound) : List Char :=
  List.replicate b.zeros '0' ++ Nat.toDigits 10 b.value

theorem chars_ne_nil (b : Bound) : b.chars ≠ [] :=
  fun h => Nat.toDigits_ne_nil (List.append_eq_nil_iff.1 h).2

theorem isDigit_of_mem_chars {b : Bound} {c : Char} (h : c ∈ b.chars) :
    isDigit c = true := by
  rcases List.mem_append.1 h with zero | digit
  · rw [(List.mem_replicate.1 zero).2]
    rfl
  · exact isDigit_of_mem_toDigits digit

/-- Zeros in front do not change a value. -/
theorem decimalValue_chars (b : Bound) : decimalValue b.chars = b.value := by
  have zeros (n : Nat) (ds : List Char) :
      decimalValue (List.replicate n '0' ++ ds) = decimalValue ds := by
    induction n with
    | zero => rfl
    | succ n ih => exact ih
  rw [chars, zeros, decimalValue_toDigits]

/-- What comes of reading a bound that stands at `n`. -/
def outcome (b : Bound) (n : Nat) : Except Fault Nat :=
  if countBound ≤ b.value then refuse .countInvalid n else .ok b.value

theorem readDecimal_chars (b : Bound) (n : Nat) {y : Char}
    (hy : isDigit y = false) (blank : Text.isBlank y = false)
    (rest : List Char) :
    readDecimal false ⟨b.chars ++ y :: rest, n⟩ =
      (b.outcome n, ⟨y :: rest, n + length b.chars⟩) := by
  rw [readDecimal_digits b.chars_ne_nil (fun _ => isDigit_of_mem_chars)
    hy blank, decimalValue_chars, outcome]

/-- A bound that is small enough. -/
theorem outcome_of_lt {b : Bound} (h : b.value < countBound) (n : Nat) :
    b.outcome n = .ok b.value := if_neg (Nat.not_le.2 h)

theorem outcome_of_le {b : Bound} (h : countBound ≤ b.value) (n : Nat) :
    b.outcome n = .error ⟨.countInvalid, n⟩ := if_pos h

end Bound

/-- What a count in braces says about its upper bound. -/
inductive Upper where
  /-- It is the lower bound. -/
  | same
  /-- There is none. -/
  | unlimited
  | limited (b : Bound)

namespace Upper

/-- What is written between the lower bound and the closing brace. -/
def chars : Upper → List Char
  | same => []
  | unlimited => [',']
  | limited b => ',' :: b.chars

/-- What comes of reading the upper bound, after a lower one that ends at
`n`. -/
def outcome (min n : Nat) : Upper → Except Fault Count
  | same => .ok ⟨min, some min⟩
  | unlimited => .ok ⟨min, none⟩
  | limited b => (b.outcome (n + 1)).map fun max => ⟨min, some max⟩

/-- What follows the lower bound is neither a digit nor a blank. -/
theorem chars_head (u : Upper) (rest : List Char) : ∃ y tail,
    u.chars ++ '}' :: rest = y :: tail ∧ isDigit y = false
      ∧ Text.isBlank y = false := by
  cases u with
  | same => exact ⟨_, _, rfl, by decide, by decide⟩
  | unlimited => exact ⟨_, _, rfl, by decide, by decide⟩
  | limited b => exact ⟨_, _, rfl, by decide, by decide⟩

/-- The upper bound is looked at once the lower one is known. -/
theorem readUpper_chars (u : Upper) (start : Nat) (min : Except Fault Nat)
    (n : Nat) (rest : List Char) :
    readUpper false start min ⟨u.chars ++ '}' :: rest, n⟩ =
      (min.bind fun m => u.outcome m n).map fun count =>
        (count, ⟨'}' :: rest, n + length u.chars⟩) := by
  cases u with
  | same => cases min <;> rfl
  | unlimited => cases min <;> rfl
  | limited b =>
      obtain ⟨d, ds, hd⟩ := List.exists_cons_of_ne_nil b.chars_ne_nil
      have digit : d ≠ '}' := by
        rintro rfl
        exact absurd
          (Bound.isDigit_of_mem_chars (b := b) (c := '}') (by simp [hd]))
          (by decide)
      have upper :=
        b.readDecimal_chars (n + 1) (y := '}') (by decide) (by decide) rest
      have step : (⟨',' :: (b.chars ++ '}' :: rest), n⟩ : Cursor).step false =
          ⟨b.chars ++ '}' :: rest, n + 1⟩ := rfl
      have width : n + length (limited b).chars = n + 1 + length b.chars := by
        rw [chars, length_cons, Nat.add_assoc]
        rfl
      rw [width, chars, List.cons_append]
      unfold readUpper
      dsimp only
      rw [step, upper, hd]
      cases min with
      | error f => simp [digit, Except.bind, Except.map]
      | ok m => cases hb : b.outcome (n + 1)
        <;> simp [digit, hb, outcome, Except.bind, Except.map]

end Upper

-- ============================================================== counts

/-- The mark of a lazy repetition. -/
def lazyMark (lazy : Bool) : List Char := if lazy then ['?'] else []

theorem readLazy_lazyMark (lazy : Bool) (h : rest.head? ≠ some '?') :
    readLazy ⟨lazyMark lazy ++ rest, n⟩
      = (lazy, ⟨rest, n + length (lazyMark lazy)⟩) := by
  cases lazy with
  | true => rfl
  | false =>
      unfold readLazy
      split
      · next r e => exact absurd (congrArg List.head? e) h
      · rfl

/-- A count in braces. -/
def countChars (m : Bound) (u : Upper) : List Char :=
  '{' :: (m.chars ++ (u.chars ++ ['}']))

/-- What comes of reading the two bounds of a count that stands at `n`. -/
def boundsOutcome (m : Bound) (u : Upper) (n : Nat) : Except Fault Count :=
  (m.outcome (n + 1)).bind fun min => u.outcome min (n + 1 + length m.chars)

/-- Bounds that can both be read. -/
theorem boundsOutcome_of_lt {m k : Bound} (hm : m.value < countBound)
    (hk : k.value < countBound) (n : Nat) :
    boundsOutcome m (.limited k) n = .ok ⟨m.value, some k.value⟩ := by
  rw [boundsOutcome, Bound.outcome_of_lt hm]
  exact congrArg (Except.map _) (Bound.outcome_of_lt hk _)

/-- Bounds that can be read are a count if they are the right way round. -/
theorem readCount_chars (m : Bound) (u : Upper) (lazy : Bool)
    (h : rest.head? ≠ some '?') (n : Nat) :
    readCount false ⟨countChars m u ++ (lazyMark lazy ++ rest), n⟩ =
      (boundsOutcome m u n).bind fun count =>
        if count.isOrdered then
          .ok ((count, lazy),
            ⟨rest, n + length (countChars m u) + length (lazyMark lazy)⟩)
        else refuse .countReversed n := by
  obtain ⟨y, tail, hu, hy, blank⟩ := u.chars_head (lazyMark lazy ++ rest)
  have text :
      countChars m u ++ (lazyMark lazy ++ rest)
        = '{' :: (m.chars ++ y :: tail) := by
    rw [← hu]
    simp [countChars]
  have opened : (⟨'{' :: (m.chars ++ y :: tail), n⟩ : Cursor).step false =
      ⟨m.chars ++ y :: tail, n + 1⟩ := rfl
  have closed (k : Nat) :
      (⟨'}' :: (lazyMark lazy ++ rest), k⟩ : Cursor).step false =
        ⟨lazyMark lazy ++ rest, k + 1⟩ := rfl
  have lower := m.readDecimal_chars (n + 1) hy blank tail
  have upper :=
    u.readUpper_chars n (m.outcome (n + 1)) (n + 1 + length m.chars)
      (lazyMark lazy ++ rest)
  have width :
      n + length (countChars m u) = n + 1 + length m.chars + length u.chars
        + 1 := by
    simp only [countChars, length_cons, length_append, length_nil,
      ← Nat.add_assoc]
    rfl
  rw [hu] at upper
  rw [text]
  unfold readCount
  dsimp only
  rw [opened, lower, upper, width, boundsOutcome]
  cases (m.outcome (n + 1)).bind fun min =>
    u.outcome min (n + 1 + length m.chars) with
  | error f => simp [Except.bind, Except.map]
  | ok count =>
      simp [Except.bind, Except.map, closed, readLazy_lazyMark lazy h]

-- ========================================================= quantifiers

/-- How often something is repeated, as it is written after it. -/
inductive Quantifier where
  | star
  | plus
  | optional
  | exactly (m : Nat) (bounded : m < countBound)
  | atLeast (m : Nat) (bounded : m < countBound)
  | between (m n : Nat) (ordered : m ≤ n) (bounded : n < countBound)

namespace Quantifier

/-- A count in braces: its lower bound, and what says about the upper
one. -/
def braced (m : Nat) (upper : List Char) : List Char :=
  '{' :: (Nat.toDigits 10 m ++ (upper ++ ['}']))

def chars : Quantifier → List Char
  | star => ['*']
  | plus => ['+']
  | optional => ['?']
  | exactly m _ => braced m []
  | atLeast m _ => braced m [',']
  | between m n _ _ => braced m (',' :: Nat.toDigits 10 n)

def count : Quantifier → Count
  | star => ⟨0, none⟩
  | plus => ⟨1, none⟩
  | optional => ⟨0, some 1⟩
  | exactly m _ => ⟨m, some m⟩
  | atLeast m _ => ⟨m, none⟩
  | between m n _ _ => ⟨m, some n⟩

theorem count_isOrdered (q : Quantifier) : q.count.isOrdered = true := by
  cases q with
  | between m n ordered _ => exact decide_eq_true ordered
  | exactly m _ => exact decide_eq_true (Nat.le_refl m)
  | _ => rfl

end Quantifier

namespace State

variable {l : Level} {gs : List OpenGroup} {names : List String}

/-- What can be repeated is replaced by its repetition, if an operator
follows and can be read. -/
theorem run_repeat {cs : List Char} {x : Node} {read : Reading (Count × Bool)}
    {count : Count} {lazy : Bool} {k : Nat} (hx : x.isRepeatable = true)
    (hn : (outside cs n (l.push x) gs names).nextOutside ⟨cs, n⟩ =
      ((outside cs n (l.push x) gs names).repeatLast n read).map .more)
    (hread : read = .ok ((count, lazy), ⟨rest, k⟩)) :
    (outside cs n (l.push x) gs names).run =
      (outside rest k (l.push (.repetition x.pos count lazy x)) gs
        names).run := by
  have last : (outside cs n (l.push x) gs names).repeatLast n read =
      .ok (outside rest k (l.push (.repetition x.pos count lazy x)) gs
        names) := by
    simp [repeatLast, outside, Level.push, hx, hread]
  exact run_of_more (hn.trans (congrArg (Except.map Step.more) last))

/-- Where a count cannot be read nothing is repeated. -/
theorem run_repeat_refused {cs : List Char} {x : Node}
    {read : Reading (Count × Bool)} {f : Fault}
    (hx : x.isRepeatable = true)
    (hn : (outside cs n (l.push x) gs names).nextOutside ⟨cs, n⟩ =
      ((outside cs n (l.push x) gs names).repeatLast n read).map .more)
    (hread : read = .error f) :
    (outside cs n (l.push x) gs names).run = .error f := by
  have last :
      (outside cs n (l.push x) gs names).repeatLast n read = .error f := by
    simp [repeatLast, outside, Level.push, hx, hread]
  exact run_of_error (hn.trans (congrArg (Except.map Step.more) last))

/-- A quantifier repeats the last item. -/
theorem run_quantifier (q : Quantifier) {x : Node} (lazy : Bool)
    (hx : x.isRepeatable = true) (h : rest.head? ≠ some '?') :
    (outside (q.chars ++ (lazyMark lazy ++ rest)) n (l.push x) gs names).run =
      (outside rest (n + length q.chars + length (lazyMark lazy))
        (l.push (.repetition x.pos q.count lazy x)) gs names).run := by
  have simple (c : Char) (count : Count) :
      simpleRepeat count ⟨c :: (lazyMark lazy ++ rest), n⟩ =
        .ok ((count, lazy),
          ⟨rest, n + length [c] + length (lazyMark lazy)⟩) := by
    simp [simpleRepeat, Cursor.advance_cons, readLazy_lazyMark lazy h]
  have braced {m : Bound} {u : Upper} {count : Count}
    (bounds : boundsOutcome m u n = .ok count)
    (ordered : count.isOrdered = true) :
      readCount false ⟨countChars m u ++ (lazyMark lazy ++ rest), n⟩ =
        .ok ((count, lazy),
          ⟨rest, n + length (countChars m u) + length (lazyMark lazy)⟩) := by
    rw [readCount_chars m u lazy h, bounds]
    exact if_pos ordered
  have single {m : Nat} (small : m < countBound) (u : Upper) :
      boundsOutcome ⟨m, 0⟩ u n
        = u.outcome m (n + 1 + length (Bound.chars ⟨m, 0⟩)) := by
    rw [boundsOutcome, Bound.outcome_of_lt small]
    rfl
  cases q with
  | star => exact run_repeat hx rfl (simple '*' ⟨0, none⟩)
  | plus => exact run_repeat hx rfl (simple '+' ⟨1, none⟩)
  | optional => exact run_repeat hx rfl (simple '?' ⟨0, some 1⟩)
  | exactly m bounded =>
      have chars :
          (Quantifier.exactly m bounded).chars = countChars ⟨m, 0⟩ .same := rfl
      rw [chars]
      exact run_repeat hx rfl (braced (single bounded .same)
        (Quantifier.exactly m bounded).count_isOrdered)
  | atLeast m bounded =>
      have chars :
          (Quantifier.atLeast m bounded).chars
            = countChars ⟨m, 0⟩ .unlimited := rfl
      rw [chars]
      exact run_repeat hx rfl (braced (single bounded .unlimited)
        (Quantifier.atLeast m bounded).count_isOrdered)
  | between m k ordered bounded =>
      have chars : (Quantifier.between m k ordered bounded).chars =
          countChars ⟨m, 0⟩ (.limited ⟨k, 0⟩) := rfl
      rw [chars]
      exact run_repeat hx rfl (braced
        (boundsOutcome_of_lt (Nat.lt_of_le_of_lt ordered bounded) bounded n)
        (Quantifier.between m k ordered bounded).count_isOrdered)

end State

end PatternCheck.Pattern
