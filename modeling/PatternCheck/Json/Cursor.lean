import PatternCheck.Json.Problem
import PatternCheck.Json.Value
import PatternCheck.Text.Utf8

/-
A place in the text of a document, and the reading of what has no parts:
blanks, words, strings and numbers. The text is bytes; only inside
strings do they have to be the encoding of characters.

A problem shows either before the next byte (`here`) or just after it
(`ahead`), depending on whether that byte had to be taken in to notice.
-/

namespace PatternCheck.Json

/-- The bytes still to be read and the number of those before. -/
structure Cursor where
  rest : List UInt8
  pos : Nat
deriving Repr, DecidableEq, Inhabited

/-- The outcome of reading something: the thing and the place after it. -/
abbrev Reading (α : Type) := Except Problem (α × Cursor)

namespace Cursor

/-- The place before the first byte. -/
def start (bytes : List UInt8) : Cursor := ⟨bytes, 0⟩

/-- A problem before the next byte. -/
def here {α : Type} (c : Cursor) (cause : Cause) : Except Problem α :=
  .error ⟨cause, c.pos⟩

/-- A problem with the next byte, if there is one. -/
def ahead {α : Type} (c : Cursor) (cause : Cause) : Except Problem α :=
  .error ⟨cause, c.pos + c.rest.length.min 1⟩

/-- Past some bytes. -/
def advance (c : Cursor) (n : Nat) : Cursor := ⟨c.rest.drop n, c.pos + n⟩

/-- Whether the next byte is a character. -/
def at? (c : Cursor) (x : Char) : Bool := c.rest.head? == some x.toUInt8

-- =============================================================== blanks

/-- The bytes that may stand between any two parts of a document. -/
def isBlank (b : UInt8) : Bool :=
  b = ' '.toUInt8 || b = '\n'.toUInt8 || b = '\t'.toUInt8 || b = '\r'.toUInt8

/-- Past blanks. -/
def blanks (c : Cursor) : Cursor :=
  ⟨c.rest.dropWhile isBlank, c.pos + (c.rest.takeWhile isBlank).length⟩

-- ================================================================ words

/-- Past the given bytes. -/
def word (c : Cursor) : List UInt8 → Except Problem Cursor
  | [] => .ok c
  | b :: word' =>
    match c.rest with
    | [] => c.here .valueUnfinished
    | b' :: rest =>
      if b' = b then word ⟨rest, c.pos + 1⟩ word' else ahead c .wordExpected

/-- Past a word. -/
def literal (c : Cursor) (text : String) : Except Problem Cursor :=
  c.word (text.toList.map (·.toUInt8))

-- ============================================================== strings

/-- The value of a hexadecimal digit. -/
def hexDigit? (b : UInt8) : Option Nat :=
  let n := b.toNat
  if 0x30 ≤ n ∧ n ≤ 0x39 then some (n - 0x30)
  else if 0x41 ≤ n ∧ n ≤ 0x46 then some (n - 0x41 + 10)
  else if 0x61 ≤ n ∧ n ≤ 0x66 then some (n - 0x61 + 10)
  else none

/-- The value of four hexadecimal digits. -/
def hexValue? (a b c d : UInt8) : Option Nat := do
  let a ← hexDigit? a
  let b ← hexDigit? b
  let c ← hexDigit? c
  let d ← hexDigit? d
  return ((a * 16 + b) * 16 + c) * 16 + d

/-- The value of the next four bytes as hexadecimal digits. -/
def hexFour (c : Cursor) : Except Problem Nat :=
  match c.rest with
  | a :: b :: c' :: d :: _ =>
    match hexValue? a b c' d with
    | some n => .ok n
    | none => (c.advance 4).here .escapeInvalid
  | rest => .error ⟨.stringUnfinished, c.pos + rest.length⟩

/-- Whether a number is the first half of a surrogate pair. -/
def isLeading (n : Nat) : Bool := 0xD800 ≤ n && n ≤ 0xDBFF

/-- Whether a number is the second half of a surrogate pair. -/
def isTrailing (n : Nat) : Bool := 0xDC00 ≤ n && n ≤ 0xDFFF

/-- The character of a surrogate pair. -/
def paired (lead trail : Nat) : Char :=
  Char.ofNat ((lead - 0xD800) * 0x400 + (trail - 0xDC00) + 0x10000)

/-- One particular byte within an escape for a surrogate pair. -/
def pairMark (c : Cursor) (x : Char) : Except Problem Unit :=
  if c.rest.isEmpty then c.here .stringUnfinished
  else if c.at? x then .ok ()
  else c.ahead .surrogateUnfinished

/-- The character that an escape stands for by its number, and how many
bytes the number takes. The cursor is before the first digit. -/
def numberedChar (c : Cursor) : Except Problem (Char × Nat) := do
  let n ← c.hexFour
  if isTrailing n then (c.advance 4).here .surrogateAlone
  else if isLeading n then
    (c.advance 4).pairMark '\\'
    (c.advance 5).pairMark 'u'
    let n' ← (c.advance 6).hexFour
    if isTrailing n' then .ok (paired n n', 10)
    else (c.advance 10).here .surrogateAlone
  else .ok (Char.ofNat n, 4)

/-- The character that an escape stands for by its letter. -/
def lettered? (b : UInt8) : Option Char :=
  if b = '"'.toUInt8 then some '"'
  else if b = '\\'.toUInt8 then some '\\'
  else if b = '/'.toUInt8 then some '/'
  else if b = 'b'.toUInt8 then some '\x08'
  else if b = 'f'.toUInt8 then some '\x0c'
  else if b = 'n'.toUInt8 then some '\n'
  else if b = 'r'.toUInt8 then some '\r'
  else if b = 't'.toUInt8 then some '\t'
  else none

/-- The character that an escape stands for, and how many bytes follow the
backslash. The cursor is after it. -/
def escape (c : Cursor) : Except Problem (Char × Nat) :=
  match c.rest with
  | [] => c.here .stringUnfinished
  | b :: _ =>
    if b = 'u'.toUInt8 then (c.advance 1).numberedChar.map fun (x, n) =>
      (x, n + 1)
    else
      match lettered? b with
      | some x => .ok (x, 1)
      | none => c.ahead .escapeInvalid

/-- The rest of a string. `acc` holds its characters so far, latest first;
`bad` is the place of the first byte that belongs to no character, which
is reported once the string is known to end. -/
def stringFrom (acc : List Char) (bad : Option Nat) (pos : Nat) :
    List UInt8 → Reading (List Char)
  | [] => .error ⟨.stringUnfinished, pos⟩
  | b :: rest =>
    if b = '"'.toUInt8 then
      match bad with
      | none => .ok (acc.reverse, ⟨rest, pos + 1⟩)
      | some place => .error ⟨.encodingInvalid, place + 1⟩
    else if b = '\\'.toUInt8 then
      match escape ⟨rest, pos + 1⟩ with
      | .error e => .error e
      | .ok (x, n) => stringFrom (x :: acc) bad (pos + 1 + n) (rest.drop n)
    else if b < 0x20 then .error ⟨.controlCharacter, pos + 1⟩
    else
      match Text.Utf8.piece (b :: rest) with
      | .char x n => stringFrom (x :: acc) bad (pos + n) (rest.drop (n - 1))
      | _ => stringFrom acc (bad.or (some pos)) (pos + 1) rest
termination_by bytes => bytes.length
decreasing_by all_goals simp; try omega

/-- The text of a string, after its opening quotation mark. -/
def string (c : Cursor) : Reading String :=
  (stringFrom [] none c.pos c.rest).map fun (cs, after) =>
    (String.ofList cs, after)

-- ============================================================== numbers

/-- The value of a decimal digit. -/
def digit? (b : UInt8) : Option Nat :=
  if 0x30 ≤ b.toNat ∧ b.toNat ≤ 0x39 then some (b.toNat - 0x30) else none

/-- Whether a byte is a decimal digit. -/
def isDigit (b : UInt8) : Bool := (digit? b).isSome

/-- The digits that come next, and the place after them. -/
def digits (c : Cursor) : List Nat × Cursor :=
  ((c.rest.takeWhile isDigit).filterMap digit?,
    ⟨c.rest.dropWhile isDigit, c.pos + (c.rest.takeWhile isDigit).length⟩)

/-- Appends digits to a significand for as long as it can be held; gives
the significand and how many digits it has taken. -/
def gather (significand : Nat) : List Nat → Nat × Nat
  | [] => (significand, 0)
  | d :: ds =>
    let longer := significand * 10 + d
    if longer ≤ Number.greatest then
      let (s, n) := gather longer ds
      (s, n + 1)
    else (significand, 0)

/-- The largest exponent that is looked at. -/
def greatestExponent : Nat := UInt32.size / 2 - 1

/-- The value of the digits of an exponent, or how many digits it takes to
show that it is too large. -/
def exponentValue (value count : Nat) : List Nat → Except Nat Nat
  | [] => .ok value
  | d :: ds =>
    if value * 10 + d ≤ greatestExponent then
      exponentValue (value * 10 + d) (count + 1) ds
    else .error (count + 1)

/-- A decimal number, if it is not too large for a double. -/
def decimal (c : Cursor) (isNegative : Bool) (significand : Nat)
    (exponent : Int) : Reading Number :=
  match Number.approximate significand exponent with
  | some _ => .ok (.decimal isNegative significand exponent, c)
  | none => c.here .numberRange

/-- The sign of an exponent, and the place after it. -/
def exponentSign (c : Cursor) : Bool × Cursor :=
  if c.at? '+' then (false, c.advance 1)
  else if c.at? '-' then (true, c.advance 1)
  else (false, c)

/-- The rest of a number, from the letter of its exponent. -/
def exponent (c : Cursor) (isNegative : Bool) (significand : Nat)
    (shift : Int) : Reading Number :=
  let (down, c) := (c.advance 1).exponentSign
  match c.rest with
  | [] => c.here .valueUnfinished
  | b :: _ =>
    if !isDigit b then c.ahead .numberInvalid
    else
      let (ds, after) := c.digits
      match exponentValue 0 0 ds with
      | .ok e =>
        after.decimal isNegative significand
          (if down then shift - e else shift + e)
      | .error n =>
        if significand = 0 || down then .ok (.decimal isNegative 0 0, after)
        else (c.advance n).here .numberRange

/-- Whether an exponent comes next. -/
def atExponent (c : Cursor) : Bool := c.at? 'e' || c.at? 'E'

/-- The rest of a number, from its point. -/
def fraction (c : Cursor) (isNegative : Bool) (significand : Nat)
    (shift : Int) : Reading Number :=
  let c := c.advance 1
  let (ds, after) := c.digits
  if ds.isEmpty then
    if c.rest.isEmpty then c.here .valueUnfinished else c.ahead .numberInvalid
  else
    let (s, n) := gather significand ds
    if after.atExponent then after.exponent isNegative s (shift - n)
    else after.decimal isNegative s (shift - n)

/-- An integer; the negative ones that cannot be held exactly, and the
negative zero, are decimal numbers. -/
def integer (isNegative : Bool) (n : Nat) : Number :=
  if !isNegative then .natural n
  else if n = 0 || Number.greatestNegative < n then .decimal true n 0
  else .negative n

/-- The part of a number after its sign. -/
def unsigned (c : Cursor) (isNegative : Bool) : Reading Number :=
  match c.rest with
  | [] => c.here .valueUnfinished
  | b :: next =>
    if !isDigit b then c.ahead .numberInvalid
    else if b = '0'.toUInt8 && (next.head?.any isDigit) then
      (c.advance 1).ahead .numberInvalid
    else
      let (ds, after) := c.digits
      let (s, n) := gather 0 ds
      let shift : Int := ds.length - n
      if after.at? '.' then after.fraction isNegative s shift
      else if after.atExponent then after.exponent isNegative s shift
      else if n = ds.length then .ok (integer isNegative s, after)
      else after.decimal isNegative s shift

/-- A number. -/
def number (c : Cursor) : Reading Number :=
  if c.at? '-' then (c.advance 1).unsigned true else c.unsigned false

end Cursor

end PatternCheck.Json
