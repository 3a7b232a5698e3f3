import PatternCheck.Pattern.Cursor

/-
Reading the opening of a group: the parenthesis and what follows it up
to the first character of the group's body. `Opening.read` tells groups
from flag settings, which have no body.
-/

namespace PatternCheck.Pattern

-- =============================================================== names

/-- A code point that counts as a letter. -/
def isAlphabetic (c : Char) : Bool :=
  if c.toNat ≤ 0x7F then ('a' ≤ c && c ≤ 'z') || ('A' ≤ c && c ≤ 'Z')
  else Unicode.Trait.alphabetic.contains c.toNat

/-- A code point that counts as a number. -/
def isNumeric (c : Char) : Bool :=
  if c.toNat ≤ 0x7F then '0' ≤ c && c ≤ '9'
  else Unicode.Category.number.contains c.toNat

/-- Characters that may begin a group's name. -/
def isNameStart (c : Char) : Bool := c = '_' || isAlphabetic c

/-- Characters that may go on a group's name. -/
def isNameRest (c : Char) : Bool :=
  c = '_' || c = '.' || c = '[' || c = ']' || isAlphabetic c || isNumeric c

/-- Characters of a name, at its beginning or further on. -/
def isNameChar (first : Bool) (c : Char) : Bool :=
  if first then isNameStart c else isNameRest c

/-- A group's name up to the closing angle, and the cursor on the angle.
`first` holds before the first character; `acc` is the name so far,
latest character first. -/
def readName (first : Bool) (acc : List Char) :
    List Char → Nat → Reading (List Char)
  | [], n => refuse .nameUnclosed n
  | c :: r, n =>
    if c = '>' then .ok (acc.reverse, ⟨c :: r, n⟩)
    else if isNameChar first c then
      readName false (c :: acc) r (n + c.utf8Size)
    else refuse .nameCharacter n

-- =============================================================== flags

/-- Flags up to the colon or parenthesis that ends them, which the cursor
is left on. `acc` holds the changes so far, latest first; `negation` is
where the last `-` stands, if it comes last so far; `clearing` says
whether there has been one. -/
def readFlags (clearing : Bool) (negation : Option Nat) (acc : FlagChanges) :
    List Char → Nat → Reading FlagChanges
  | [], n => refuse .flagUnclosed n
  | c :: r, n =>
    if c = ':' || c = ')' then
      match negation with
      | some p => refuse .negationDangling p
      | none => .ok (acc.reverse, ⟨c :: r, n⟩)
    else if c = '-' then
      if clearing then refuse .negationRepeated n
      else readFlags true (some n) acc r (n + c.utf8Size)
    else
      match Flag.ofLetter? c with
      | none => refuse .flagUnknown n
      | some f =>
        if acc.any (·.1 = f) then refuse .flagDuplicate n
        else readFlags clearing none ((f, !clearing) :: acc) r (n + c.utf8Size)

-- ============================================================= opening

/-- What an opening parenthesis begins. -/
inductive Opening where
  /-- A change of flags up to the end of the enclosing group. -/
  | setFlags (changes : FlagChanges)
  | group (kind : GroupKind)
deriving Repr, Inhabited

/-- Whether the text after a parenthesis asks for look-around. -/
def isLookAround : List Char → Bool
  | '?' :: '=' :: _ => true
  | '?' :: '!' :: _ => true
  | '?' :: '<' :: '=' :: _ => true
  | '?' :: '<' :: '!' :: _ => true
  | _ => false

/-- The place of a group's name: after `?P<` or `?<`. -/
def nameStart? (c : Cursor) : Option Cursor :=
  match c.rest with
  | '?' :: 'P' :: '<' :: r => some ⟨r, c.pos + 3⟩
  | '?' :: '<' :: r => some ⟨r, c.pos + 2⟩
  | _ => none

/-- A named group. `names` are those taken. -/
def readNamed (names : List String) (c : Cursor) : Reading Opening :=
  match readName true [] c.rest c.pos with
  | .error e => .error e
  | .ok (name, closing) =>
    let name := String.ofList name
    if name.isEmpty then refuse .nameEmpty c.pos
    else if names.contains name then refuse .nameDuplicate c.pos
    else .ok (.group (.named name), closing.advance)

/-- What a parenthesis at `start` begins; the cursor stands on it. Flags
without any flag, `(?)`, read as a `?` with nothing before it. -/
def Opening.read (verbose : Bool) (names : List String) (start : Cursor) :
    Reading Opening :=
  let c := start.step verbose
  if isLookAround c.rest then refuse .lookAround start.pos
  else
    match nameStart? c with
    | some inside => readNamed names inside
    | none =>
      match c.rest with
      | ['?'] => refuse .groupUnclosed start.pos
      | '?' :: r =>
        match readFlags false none [] r (c.pos + 1) with
        | .error e => .error e
        | .ok (changes, closing) =>
          if closing.rest.head? = some ':' then
            .ok (.group (.flagged changes), closing.advance)
          else if changes.isEmpty then refuse .nothingToRepeat c.pos
          else .ok (.setFlags changes, closing.advance)
      | _ => .ok (.group .capture, c)

-- ======================================================== what is left

/-- A name is taken up to its angle. -/
theorem readName_left_le {first : Bool} {acc cs : List Char} {n : Nat}
    {r : List Char × Cursor} (h : readName first acc cs n = .ok r) :
    r.2.left ≤ cs.length := by
  induction cs generalizing first acc n with
  | nil => cases h
  | cons c cs ih =>
    rw [readName] at h
    split at h
    · cases h; exact Nat.le_refl _
    · split at h
      · exact Nat.le_succ_of_le (ih h)
      · cases h

/-- Flags are taken up to the colon or the parenthesis after them. -/
theorem readFlags_left_le {clearing : Bool} {negation : Option Nat}
    {acc : FlagChanges} {cs : List Char} {n : Nat} {r : FlagChanges × Cursor}
    (h : readFlags clearing negation acc cs n = .ok r) :
    r.2.left ≤ cs.length := by
  induction cs generalizing clearing negation acc n with
  | nil => cases h
  | cons c cs ih =>
    rw [readFlags.eq_def] at h
    dsimp only at h
    split at h
    · split at h <;> cases h
      exact Nat.le_refl _
    · split at h
      · split at h
        · cases h
        · exact Nat.le_succ_of_le (ih h)
      · split at h
        · cases h
        · split at h
          · cases h
          · exact Nat.le_succ_of_le (ih h)

theorem nameStart?_left_le {c d : Cursor} (h : nameStart? c = some d) :
    d.left ≤ c.left := by
  unfold nameStart? at h
  split at h <;> simp_all [Cursor.left] <;> (subst h; simp; try omega)

theorem readNamed_left_le {names : List String} {c : Cursor}
    {r : Opening × Cursor} (h : readNamed names c = .ok r) :
    r.2.left ≤ c.left := by
  unfold readNamed at h
  split at h
  · cases h
  · next name closing hn =>
    dsimp only at h
    split at h
    · cases h
    · split at h <;> cases h
      exact Nat.le_trans (Cursor.advance_left_le _) (readName_left_le hn)

/-- What opens takes its parenthesis. -/
theorem Opening.read_left_lt {v : Bool} {names : List String} {c : Cursor}
    {r : Opening × Cursor} (ne : c.rest ≠ [])
    (h : Opening.read v names c = .ok r) : r.2.left < c.left := by
  unfold Opening.read at h
  refine Nat.lt_of_le_of_lt ?_ (Cursor.step_left_lt v ne)
  generalize c.step v = d at h ⊢
  dsimp only at h
  split at h
  · cases h
  split at h
  · next hs => exact Nat.le_trans (readNamed_left_le h) (nameStart?_left_le hs)
  split at h
  · cases h
  · next hr =>
    split at h
    · cases h
    · next changes closing hf =>
      have hle : closing.advance.left ≤ d.left := by
        refine Nat.le_trans (Cursor.advance_left_le _)
          (Nat.le_trans (readFlags_left_le hf) ?_)
        simp [Cursor.left, hr]
      split at h
      · cases h; exact hle
      · split at h <;> cases h
        exact hle
  · cases h; exact Nat.le_refl _

end PatternCheck.Pattern
