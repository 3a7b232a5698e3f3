import PatternCheck.Pattern.Atom
import PatternCheck.Text.Utf8

/-
Reading inside brackets: what an opening bracket takes with it, the
items that stand side by side, and the operators between them. A class
that is still open is an `OpenClass`; operators group to the left, so it
holds at most one operator that waits for its right-hand side.
-/

namespace PatternCheck.Pattern

open Text (isBlank)

-- ======================================================= open classes

/-- A bracketed class whose closing bracket has not been read. `items`
are those of the set being read, latest first, and `itemsPos` is where
that set stands as long as it has none. -/
structure OpenClass where
  pos : Nat
  negated : Bool
  pending : Option (ClassSet × SetOp)
  itemsPos : Nat
  items : List ClassSet
deriving Repr, Inhabited

namespace OpenClass

def push (o : OpenClass) (item : ClassSet) : OpenClass :=
  { o with items := item :: o.items }

/-- All that has been read as one set. -/
def body (o : OpenClass) : ClassSet :=
  let last := ClassSet.ofItems o.itemsPos o.items.reverse
  match o.pending with
  | none => last
  | some (lhs, op) => .binary lhs.pos op lhs last

/-- An operator that was read up to `pos`. -/
def operator (o : OpenClass) (op : SetOp) (pos : Nat) : OpenClass :=
  { o with pending := some (o.body, op), itemsPos := pos, items := [] }

/-- The class, closed. -/
def close (o : OpenClass) : ClassSet := .bracketed o.pos o.negated o.body

/-- The beginning of a class opened at `pos`, after the bracket and the
caret. Dashes that come first stand for themselves, and so does a closing
bracket that comes before everything else. -/
def readLeading (verbose : Bool) (pos : Nat) (negated : Bool) (c : Cursor) :
    Reading OpenClass :=
  let (dashes, after) := c.collect verbose (· == '-')
  let opened : OpenClass :=
    { pos, negated, pending := none, itemsPos := c.pos
      items := dashes.reverse.map .literal }
  match after.rest with
  | [] => refuse .classUnclosed pos
  | ']' :: _ =>
    if dashes.isEmpty then
      let next := after.step verbose
      if next.rest.isEmpty then refuse .classUnclosed pos
      else .ok (opened.push (.literal { pos := after.pos, char := ']' }), next)
    else .ok (opened, after)
  | _ => .ok (opened, after)

/-- The opening of a class; the cursor stands on the bracket. -/
def read (verbose : Bool) (start : Cursor) : Reading OpenClass :=
  let c := start.step verbose
  match c.rest with
  | '^' :: _ => readLeading verbose start.pos true (c.step verbose)
  | _ => readLeading verbose start.pos false c

end OpenClass

-- ============================================================== items

/-- An ASCII class by name, `[:alpha:]` or `[:^alpha:]`. Anything else is
no ASCII class, and the bracket then opens a nested class. -/
def readAscii? (c : Cursor) : Option (ClassSet × Cursor) :=
  match c.rest with
  | '[' :: ':' :: r =>
    let (negated, r, n) :=
      match r with
      | '^' :: r => (true, r, c.pos + 3)
      | r => (false, r, c.pos + 2)
    let name := r.takeWhile (· != ':')
    match r.dropWhile (· != ':') with
    | ':' :: ']' :: after =>
      (AsciiClass.ofName? (String.ofList name)).map fun kind =>
        (.ascii c.pos negated kind, ⟨after, n + Text.Utf8.length name + 2⟩)
    | _ => none
  | _ => none

/-- The character after a dash that tells a range from a literal dash.
In verbose mode blanks are passed over, and one `#` with the blanks
after it; where nothing but those is left, the very next character
counts. -/
def peekPast (verbose : Bool) (afterDash : List Char) : Option Char :=
  if verbose then
    match afterDash.dropWhile isBlank with
    | [] => afterDash.head?
    | '#' :: r =>
      match r.dropWhile isBlank with
      | [] => afterDash.head?
      | x :: _ => some x
    | x :: _ => some x
  else afterDash.head?

/-- An atom as an item of a class. -/
def Atom.toItem : Atom → Except Fault ClassSet
  | .literal l => .ok (.literal l)
  | .shorthand pos negated kind => .ok (.shorthand pos negated kind)
  | .assertion pos _ => refuse .classEscape pos

/-- An atom as the end of a range. -/
def Atom.toBound : Atom → Except Fault Literal
  | .literal l => .ok l
  | .shorthand pos _ _ => refuse .classRangeBound pos
  | .assertion pos _ => refuse .classRangeBound pos

/-- The range between two atoms. -/
def rangeItem (a b : Atom) : Except Fault ClassSet := do
  let lo ← a.toBound
  let hi ← b.toBound
  if hi.char < lo.char then refuse .classRangeReversed lo.pos
  else return .range lo hi

/-- A character, an escape or a range. `opened` is where the innermost
open class begins. -/
def readItem (verbose : Bool) (opened : Nat) (c : Cursor) : Reading ClassSet :=
  match Atom.read verbose c with
  | .error e => .error e
  | .ok (a, next) =>
    let next := next.space verbose
    let single : Reading ClassSet := a.toItem.map fun item => (item, next)
    match next.rest with
    | [] => refuse .classUnclosed opened
    | '-' :: r =>
      let peeked := peekPast verbose r
      if peeked = some ']' || peeked = some '-' then single
      else
        let bound := next.step verbose
        if bound.rest.isEmpty then refuse .classUnclosed opened
        else
          match Atom.read verbose bound with
          | .error e => .error e
          | .ok (b, after) => (rangeItem a b).map fun item => (item, after)
    | _ => single

-- ======================================================== what is left

/-- Nothing has to come first in a class. -/
theorem OpenClass.readLeading_left_le {v : Bool} {p : Nat} {n : Bool}
    {c : Cursor} {r : OpenClass × Cursor}
    (h : OpenClass.readLeading v p n c = .ok r) : r.2.left ≤ c.left := by
  unfold OpenClass.readLeading at h
  have hrun := Cursor.collect_left_le v (· == '-') c
  dsimp only at h
  split at h
  · cases h
  · split at h
    · split at h <;> cases h
      exact Nat.le_trans (Cursor.step_left_le v _) hrun
    · cases h; exact hrun
  · cases h; exact hrun

/-- A class that opens takes its bracket. -/
theorem OpenClass.read_left_lt {v : Bool} {c : Cursor} {r : OpenClass × Cursor}
    (ne : c.rest ≠ []) (h : OpenClass.read v c = .ok r) :
    r.2.left < c.left := by
  unfold OpenClass.read at h
  refine Nat.lt_of_le_of_lt ?_ (Cursor.step_left_lt v ne)
  dsimp only at h
  split at h
  · exact Nat.le_trans (readLeading_left_le h) (Cursor.step_left_le v _)
  · exact readLeading_left_le h

/-- A class by its name takes both its brackets. -/
theorem readAscii?_left_lt {c : Cursor} {r : ClassSet × Cursor}
    (h : readAscii? c = some r) : r.2.left < c.left := by
  unfold readAscii? at h
  split at h
  · next r' hr =>
    simp only [Cursor.left, hr, List.length_cons]
    split at h
    next neg body n hb =>
      have hlen : body.length ≤ r'.length := by
        split at hb <;> cases hb <;> simp
      dsimp only at h
      split at h
      · next after hs =>
        have hsuffix : (':' :: ']' :: after).length ≤ body.length :=
          hs ▸ (List.dropWhile_suffix _).length_le
        simp only [List.length_cons] at hsuffix
        cases hk : AsciiClass.ofName?
          (String.ofList (body.takeWhile (· != ':'))) with
        | none => simp [hk] at h
        | some k =>
          simp only [hk, Option.map_some, Option.some.injEq] at h
          subst h
          simp only
          omega
      · cases h
  · cases h

/-- An item takes what its first atom takes, and perhaps a dash and another
atom. -/
theorem readItem_left_lt {v : Bool} {o : Nat} {c : Cursor}
    {r : ClassSet × Cursor} (h : readItem v o c = .ok r) :
    r.2.left < c.left := by
  unfold readItem at h
  split at h
  · cases h
  · next a next ha =>
    have hlt := Atom.read_left_lt ha
    have hle := Cursor.space_left_le v next
    generalize next.space v = d at h hle
    dsimp only at h hlt
    have hd : d.left < c.left := Nat.lt_of_le_of_lt hle hlt
    have single : ∀ {x : Except Fault ClassSet},
        x.map (fun item => (item, d)) = .ok r → r.2.left < c.left := by
      intro x hx
      cases x <;> cases hx
      exact hd
    split at h
    · cases h
    · split at h
      · exact single h
      · split at h
        · cases h
        · split at h
          · cases h
          · next b after hb =>
            have hb' := Atom.read_left_lt hb
            have := Cursor.step_left_le v d
            cases hr : rangeItem a b with
            | error e => rw [hr] at h; cases h
            | ok item =>
              rw [hr] at h
              cases h
              dsimp only at hb' ⊢
              omega
    · exact single h

end PatternCheck.Pattern
