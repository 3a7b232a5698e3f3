import PatternCheck.Pattern.Cursor

/-
Reading one character or one escape. `Atom.read` takes a cursor that
stands on a character and gives the atom found there with the place
after it; everything that begins with a backslash is decided here.
-/

namespace PatternCheck.Pattern

open Unicode (PropertyQuery hexDigit? hexValue)

-- ======================================================= classification

def isDigit (c : Char) : Bool := '0' ≤ c && c ≤ '9'

def isHexDigit (c : Char) : Bool := (hexDigit? c).isSome

/-- ASCII letters and digits. -/
def isAsciiWord (c : Char) : Bool :=
  isDigit c || ('a' ≤ c && c ≤ 'z') || ('A' ≤ c && c ≤ 'Z')

/-- Characters that a backslash turns into themselves: ASCII without
letters and digits, and without the two angles, which are assertions. -/
def isEscapable (c : Char) : Bool :=
  c.toNat ≤ 0x7F && !isAsciiWord c && c != '<' && c != '>'

/-- The control character that a letter names after a backslash. -/
def control? : Char → Option Char
  | 'a' => some '\x07'
  | 'f' => some '\x0C'
  | 't' => some '\t'
  | 'n' => some '\n'
  | 'r' => some '\r'
  | 'v' => some '\x0B'
  | _ => none

/-- The class that a letter names after a backslash, and whether it is
the complement. -/
def shorthand? : Char → Option (Bool × Shorthand)
  | 'd' => some (false, .digit)
  | 'D' => some (true, .digit)
  | 's' => some (false, .space)
  | 'S' => some (true, .space)
  | 'w' => some (false, .word)
  | 'W' => some (true, .word)
  | _ => none

/-- The assertion that a character names after a backslash. -/
def assertion? : Char → Option Assertion
  | 'A' => some .textStart
  | 'z' => some .textEnd
  | 'B' => some .notWordBoundary
  | '<' => some .wordStart
  | '>' => some .wordEnd
  | _ => none

-- ======================================================== code points

/-- How many digits follow the letter when there are no braces. -/
def hexWidth : Char → Nat
  | 'x' => 2
  | 'u' => 4
  | _ => 8

/-- Exactly `n` hexadecimal digits; `acc` holds those read, latest first. -/
def readHexDigits (verbose : Bool) :
    Nat → List Char → Cursor → Reading (List Char)
  | 0, acc, c => .ok (acc.reverse, c)
  | n + 1, acc, c =>
    match c.rest with
    | [] => refuse .escapeUnclosed c.pos
    | x :: _ =>
      if isHexDigit x then readHexDigits verbose n (x :: acc) (c.step verbose)
      else refuse .hexDigit c.pos

/-- The character with a given number, unless there is none. -/
def scalar? (n : Nat) : Option Char :=
  if h : n.isValidChar then some (Char.ofNatAux n h) else none

/-- The literal with a given hexadecimal number; `digits` is where its
first digit stands. -/
def hexLiteral (start digits : Nat) (byte : Bool) (hex : List Char)
    (after : Cursor) : Reading Atom :=
  match scalar? (hexValue hex) with
  | some ch => .ok (.literal { pos := start, char := ch, byte }, after)
  | none => refuse .hexScalar digits

/-- A character by number. The cursor stands on the letter. -/
def readHex (verbose : Bool) (start : Nat) (letter : Char) (c : Cursor) :
    Reading Atom :=
  let c := c.step verbose
  match c.rest with
  | [] => refuse .escapeUnclosed c.pos
  | '{' :: _ =>
    let (digits, after) := (c.step verbose).collect verbose isHexDigit
    match after.rest with
    | [] => refuse .escapeUnclosed c.pos
    | '}' :: _ =>
      if digits.isEmpty then refuse .hexEmpty c.pos
      else hexLiteral start (c.pos + 1) false (digits.map (·.char))
        (after.step verbose)
    | _ => refuse .hexDigit after.pos
  | _ =>
    match readHexDigits verbose (hexWidth letter) [] c with
    | .ok (digits, after) => hexLiteral start c.pos (letter = 'x') digits after
    | .error e => .error e

-- ========================================================== properties

/-- Splits at the first `!=`. -/
def cutAtUnequal : List Char → Option (List Char × List Char)
  | '!' :: '=' :: rest => some ([], rest)
  | c :: rest => (cutAtUnequal rest).map fun (a, b) => (c :: a, b)
  | [] => none

/-- What a property class asks for: `name`, `name:value`, `name=value` or
`name!=value`. The separators are tried in the order `!=`, `:`, `=`. -/
def propertyQuery (cs : List Char) : PropertyQuery :=
  let cut (sep : Char) : Option (List Char × List Char) :=
    match Unicode.cutAt sep cs with
    | (a, some b) => some (a, b)
    | (_, none) => none
  match (cutAtUnequal cs).or ((cut ':').or (cut '=')) with
  | some (name, value) => .valued (String.ofList name) (String.ofList value)
  | none => .named (String.ofList cs)

/-- A property class. The cursor stands on the letter `p` or `P`. -/
def readProperty (verbose : Bool) (start : Nat) (negated : Bool) (c : Cursor) :
    Reading Atom :=
  let c := c.step verbose
  match c.rest with
  | [] => refuse .escapeUnclosed c.pos
  | '{' :: _ =>
    let (name, after) := (c.step verbose).collect verbose (· != '}')
    match after.rest with
    | [] => refuse .escapeUnclosed after.pos
    | _ =>
      let query := propertyQuery (name.map (·.char))
      .ok (.shorthand start negated (.property query), after.advance)
  | '\\' :: _ => refuse .propertySyntax c.pos
  | x :: _ =>
    .ok (.shorthand start negated (.property (.named (String.singleton x))),
      c.step verbose)

-- ===================================================== word boundaries

/-- Characters in the name of a special word boundary. -/
def isBoundaryChar (c : Char) : Bool :=
  ('a' ≤ c && c ≤ 'z') || ('A' ≤ c && c ≤ 'Z') || c = '-'

/-- The assertion that a name in braces after `\b` stands for. -/
def namedBoundary? (name : List Char) : Option Assertion :=
  match String.ofList name with
  | "start" => some .wordStart
  | "end" => some .wordEnd
  | "start-half" => some .wordStartHalf
  | "end-half" => some .wordEndHalf
  | _ => none

/-- A word boundary. The cursor stands after the letter. A brace that
does not begin a name is left to be read as a count. -/
def readBoundary (verbose : Bool) (start : Nat) (after : Cursor) :
    Reading Atom :=
  let plain : Reading Atom := .ok (.assertion start .wordBoundary, after)
  match after.rest with
  | '{' :: _ =>
    let c := after.step verbose
    match c.rest with
    | [] => refuse .boundaryOrCountUnclosed start
    | x :: _ =>
      if !isBoundaryChar x then plain
      else
        let (name, closing) := c.collect verbose isBoundaryChar
        match closing.rest with
        | '}' :: _ =>
          match namedBoundary? (name.map (·.char)) with
          | some kind => .ok (.assertion start kind, closing.advance)
          | none => refuse .boundaryUnknown c.pos
        | _ => refuse .boundaryUnclosed after.pos
  | _ => plain

-- ============================================================== atoms

/-- An escape. The cursor stands after the backslash at `start`. -/
def readEscape (verbose : Bool) (start : Nat) (c : Cursor) : Reading Atom :=
  match c.rest with
  | [] => refuse .escapeUnclosed start
  | x :: _ =>
    if isDigit x then refuse .backreference start
    else if x = 'x' || x = 'u' || x = 'U' then readHex verbose start x c
    else if x = 'p' || x = 'P' then readProperty verbose start (x = 'P') c
    else if x = 'b' then readBoundary verbose start c.advance
    else if isEscapable x then
      .ok (.literal { pos := start, char := x }, c.advance)
    else
      match shorthand? x, control? x, assertion? x with
      | some (negated, kind), _, _ =>
        .ok (.shorthand start negated kind, c.advance)
      | _, some ch, _ => .ok (.literal { pos := start, char := ch }, c.advance)
      | _, _, some kind => .ok (.assertion start kind, c.advance)
      | none, none, none => refuse .escapeUnknown start

/-- The character or escape at the cursor, which must not be at the end. -/
def Atom.read (verbose : Bool) (c : Cursor) : Reading Atom :=
  match c.rest with
  | '\\' :: _ => readEscape verbose c.pos c.advance
  | x :: _ => .ok (.literal { pos := c.pos, char := x }, c.advance)
  | [] => refuse .escapeUnclosed c.pos

-- ====================================================== what is left

/-- Digits are taken one by one. -/
theorem readHexDigits_left_le {v : Bool} {n : Nat} {acc : List Char}
    {c : Cursor} {r : List Char × Cursor}
    (h : readHexDigits v n acc c = .ok r) : r.2.left ≤ c.left := by
  induction n generalizing acc c with
  | zero =>
      simp only [readHexDigits, Except.ok.injEq] at h; subst h
      exact Nat.le_refl _
  | succ n ih =>
    rw [readHexDigits] at h
    split at h
    · cases h
    · split at h
      · exact Nat.le_trans (ih h) (Cursor.step_left_le v c)
      · cases h

theorem hexLiteral_left {s d : Nat} {b : Bool} {hex : List Char} {c : Cursor}
    {r : Atom × Cursor} (h : hexLiteral s d b hex c = .ok r) : r.2 = c := by
  unfold hexLiteral at h
  split at h <;> cases h
  rfl

/-- Behind the letter there are digits, with braces around them or without. -/
theorem readHex_left_le {v : Bool} {s : Nat} {x : Char} {c : Cursor}
    {r : Atom × Cursor} (h : readHex v s x c = .ok r) : r.2.left ≤ c.left := by
  unfold readHex at h
  refine Nat.le_trans ?_ (Cursor.step_left_le v c)
  generalize c.step v = c at h ⊢
  dsimp only at h
  split at h
  · cases h
  · split at h
    · cases h
    · split at h
      · cases h
      · rw [hexLiteral_left h]
        exact Nat.le_trans (Cursor.step_left_le v _)
          (Nat.le_trans (Cursor.collect_left_le v _ _)
            (Cursor.step_left_le v c))
    · cases h
  · split at h
    · next d after hd =>
      rw [hexLiteral_left h]
      exact readHexDigits_left_le hd
    · cases h

/-- Behind the letter there is a name in braces, or one character. -/
theorem readProperty_left_le {v : Bool} {s : Nat} {n : Bool} {c : Cursor}
    {r : Atom × Cursor} (h : readProperty v s n c = .ok r) :
    r.2.left ≤ c.left := by
  unfold readProperty at h
  refine Nat.le_trans ?_ (Cursor.step_left_le v c)
  generalize c.step v = c at h ⊢
  dsimp only at h
  split at h
  · cases h
  · split at h
    · cases h
    · cases h
      exact Nat.le_trans (Cursor.advance_left_le _)
        (Nat.le_trans (Cursor.collect_left_le v _ _) (Cursor.step_left_le v c))
  · cases h
  · cases h
    exact Cursor.step_left_le v c

/-- A boundary may end where its letter does. -/
theorem readBoundary_left_le {v : Bool} {s : Nat} {c : Cursor}
    {r : Atom × Cursor} (h : readBoundary v s c = .ok r) :
    r.2.left ≤ c.left := by
  unfold readBoundary at h
  dsimp only at h
  split at h
  · split at h
    · cases h
    · split at h
      · cases h; exact Nat.le_refl _
      · split at h
        · split at h
          · cases h
            exact Nat.le_trans (Cursor.advance_left_le _)
              (Nat.le_trans (Cursor.collect_left_le v _ _)
                (Cursor.step_left_le v c))
          · cases h
        · cases h
  · cases h; exact Nat.le_refl _

theorem readEscape_left_le {v : Bool} {s : Nat} {c : Cursor}
    {r : Atom × Cursor} (h : readEscape v s c = .ok r) :
    r.2.left ≤ c.left := by
  have adv := Cursor.advance_left_le c
  unfold readEscape at h
  split at h
  · cases h
  · split at h
    · cases h
    split at h
    · exact readHex_left_le h
    split at h
    · exact readProperty_left_le h
    split at h
    · exact Nat.le_trans (readBoundary_left_le h) adv
    split at h
    · cases h; exact adv
    split at h <;> cases h <;> exact adv

/-- An atom takes one character at least: its own, or the backslash. -/
theorem Atom.read_left_lt {v : Bool} {c : Cursor} {r : Atom × Cursor}
    (h : Atom.read v c = .ok r) : r.2.left < c.left := by
  unfold Atom.read at h
  split at h
  · next e =>
      exact Nat.lt_of_le_of_lt (readEscape_left_le h)
        (Cursor.advance_left_lt (by simp [e]))
  · next e => cases h; exact Cursor.advance_left_lt (by simp [e])
  · cases h

end PatternCheck.Pattern
