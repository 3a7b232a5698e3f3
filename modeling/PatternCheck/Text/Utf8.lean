/-
UTF-8. `encode` writes a character as one to four bytes; `decode?` reads
bytes back, and where they are not UTF-8 says how far they are good, so
that a reader can report the place and a writer can put the replacement
character there (`decodeLossy`).
-/

namespace PatternCheck.Text.Utf8

-- ============================================================= encoding

/-- The byte that carries the lowest six bits of a code point. -/
def continuation (n : Nat) : UInt8 := UInt8.ofNat (0x80 + n % 0x40)

/-- The bytes of a code point. -/
def encodePoint (n : Nat) : List UInt8 :=
  if n < 0x80 then [UInt8.ofNat n]
  else if n < 0x800 then [UInt8.ofNat (0xC0 + n / 0x40), continuation n]
  else if n < 0x10000 then
    [UInt8.ofNat (0xE0 + n / 0x1000), continuation (n / 0x40), continuation n]
  else
    [UInt8.ofNat (0xF0 + n / 0x40000), continuation (n / 0x1000),
      continuation (n / 0x40), continuation n]

/-- The bytes of a text. -/
def encode (cs : List Char) : List UInt8 := cs.flatMap (encodePoint ·.toNat)

/-- How many bytes a text has. -/
def length (cs : List Char) : Nat := cs.foldl (fun n c => n + c.utf8Size) 0

-- ============================================================= decoding

/-- The first bytes of a longer character: how many bytes must follow,
which values the next one may have, and the bits it carries. The bounds
leave out overlong forms, halves of surrogate pairs and what lies beyond
the last code point. -/
def lead? (b : Nat) : Option (Nat × Nat × Nat × Nat) :=
  if b < 0xC2 then none
  else if b < 0xE0 then some (1, 0x80, 0xBF, b - 0xC0)
  else if b < 0xF0 then
    some (2, if b = 0xE0 then 0xA0 else 0x80, if b = 0xED then 0x9F else 0xBF,
      b - 0xE0)
  else if b < 0xF5 then
    some (3, if b = 0xF0 then 0x90 else 0x80, if b = 0xF4 then 0x8F else 0xBF,
      b - 0xF0)
  else none

/-- What stands at the beginning of some bytes. -/
inductive Piece where
  /-- A character and how many bytes it takes. -/
  | char (c : Char) (size : Nat)
  /-- Bytes that belong to no character: so many of them can be passed over
  at once. `truncated` says that the text ends in the middle of one. -/
  | bad (size : Nat) (truncated : Bool)
  | done
deriving Repr, Inhabited

/-- Reads the following bytes of a character: `n` of them, the next one
between `lo` and `hi`; `value` are the bits so far, `size` the bytes. -/
def follow (lo hi value size : Nat) : Nat → List UInt8 → Piece
  | 0, _ => .char (Char.ofNat value) size
  | _ + 1, [] => .bad size true
  | n + 1, b :: rest =>
    if lo ≤ b.toNat && b.toNat ≤ hi then
      follow 0x80 0xBF (value * 0x40 + b.toNat % 0x40) (size + 1) n rest
    else .bad size false

/-- Reads one character. -/
def piece : List UInt8 → Piece
  | [] => .done
  | b :: rest =>
    if b < 0x80 then .char (Char.ofNat b.toNat) 1
    else
      match lead? b.toNat with
      | none => .bad 1 false
      | some (n, lo, hi, value) => follow lo hi value 1 n rest

/-- Reads at most `fuel` characters; `acc` holds those read, latest first,
`pos` counts the bytes before. The error is the place of the first byte
that belongs to no character. -/
def decodeFrom : Nat → Nat → List Char → List UInt8 → Except Nat (List Char)
  | 0, pos, _, _ => .error pos
  | fuel + 1, pos, acc, bytes =>
    match piece bytes with
    | .done => .ok acc.reverse
    | .char c size => decodeFrom fuel (pos + size) (c :: acc) (bytes.drop size)
    | .bad .. => .error pos

/-- The text that some bytes encode, or the place of the first byte that
belongs to no character. -/
def decode? (bytes : List UInt8) : Except Nat (List Char) :=
  decodeFrom (bytes.length + 1) 0 [] bytes

/-- As `decodeFrom`, with replacement characters. -/
def decodeLossyFrom : Nat → List Char → List UInt8 → List Char
  | 0, acc, _ => acc.reverse
  | fuel + 1, acc, bytes =>
    match piece bytes with
    | .done => acc.reverse
    | .char c size => decodeLossyFrom fuel (c :: acc) (bytes.drop size)
    | .bad size _ => decodeLossyFrom fuel ('\uFFFD' :: acc) (bytes.drop size)

/-- The text that some bytes encode, with a replacement character for
every run of bytes that belongs to no character. -/
def decodeLossy (bytes : List UInt8) : List Char :=
  decodeLossyFrom (bytes.length + 1) [] bytes

end PatternCheck.Text.Utf8
