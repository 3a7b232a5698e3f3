import PatternCheck.Json.Cursor

/-
The grammar of documents. `Spells v cs` says that the characters `cs` are a
text of the document `v`: blanks may stand between any two of its parts,
and the strings in it, keys among them, are any mix of characters that
stand for themselves and of escapes. The rules are those of the format and
know nothing of a reader; Strings, Numerals and Documents compare the
reader with them, Writing the writer.

The one thing that is not for the grammar to say is what can be held of a
number (`Numeral.held?`): there are numbers of which nothing can be.
-/

namespace PatternCheck.Json

-- =============================================================== blanks

/-- Nothing but characters that may stand between any two parts. -/
def Blank (cs : List Char) : Prop :=
  ∀ c ∈ cs, c = ' ' ∨ c = '\n' ∨ c = '\t' ∨ c = '\r'

instance (cs : List Char) : Decidable (Blank cs) := List.decidableBAll _ cs

theorem Blank.nil : Blank [] := fun _ hc => absurd hc List.not_mem_nil

/-- Blanks after blanks. -/
theorem Blank.append {a b : List Char} (ha : Blank a) (hb : Blank b) :
    Blank (a ++ b) := by
  intro c hc
  rcases List.mem_append.1 hc with hc | hc
  · exact ha c hc
  · exact hb c hc

-- ============================================================== strings

/-- A hexadecimal digit and its value. -/
inductive HexDigit : Nat → Char → Prop
  | decimal {n : Nat} {c : Char} : n < 10 → c.toNat = '0'.toNat + n →
    HexDigit n c
  | small {n : Nat} {c : Char} : n < 6 → c.toNat = 'a'.toNat + n →
    HexDigit (n + 10) c
  | capital {n : Nat} {c : Char} : n < 6 → c.toNat = 'A'.toNat + n →
    HexDigit (n + 10) c

/-- Four hexadecimal digits and their value. -/
inductive HexFour : Nat → List Char → Prop
  | digits {a b c d : Nat} {w x y z : Char} :
      HexDigit a w → HexDigit b x → HexDigit c y → HexDigit d z →
      HexFour (((a * 16 + b) * 16 + c) * 16 + d) [w, x, y, z]

/-- The letters that follow a backslash, with what they stand for. -/
def letteredEscapes : List (Char × Char) :=
  [('"', '"'), ('\\', '\\'), ('/', '/'), ('b', '\x08'), ('f', '\x0c'),
    ('n', '\n'), ('r', '\r'), ('t', '\t')]

/-- The ways to write one character in a string. -/
inductive SpellsChar : Char → List Char → Prop
  /-- The character itself. -/
  | itself {c : Char} : c ≠ '"' → c ≠ '\\' → 0x20 ≤ c.toNat → SpellsChar c [c]
  /-- A backslash and a letter. -/
  | lettered {letter c : Char} : (letter, c) ∈ letteredEscapes →
    SpellsChar c ['\\', letter]
  /-- The number of the character. -/
  | numbered {c : Char} {ds : List Char} : HexFour c.toNat ds →
    SpellsChar c ('\\' :: 'u' :: ds)
  /-- The numbers of a surrogate pair. -/
  | paired {c : Char} {lead trail : Nat} {ds es : List Char} :
      HexFour lead ds → HexFour trail es →
      0xD800 ≤ lead → lead < 0xDC00 → 0xDC00 ≤ trail → trail < 0xE000 →
      c.toNat = 0x10000 + (lead - 0xD800) * 0x400 + (trail - 0xDC00) →
      SpellsChar c ('\\' :: 'u' :: ds ++ '\\' :: 'u' :: es)

/-- The ways to write the characters of a string, one after the other. -/
inductive SpellsChars : List Char → List Char → Prop
  | nil : SpellsChars [] []
  | cons {c : Char} {cs es fs : List Char} :
      SpellsChar c es → SpellsChars cs fs → SpellsChars (c :: cs) (es ++ fs)

/-- The texts of a string. -/
inductive SpellsString : String → List Char → Prop
  | quoted {s : String} {es : List Char} :
      SpellsChars s.toList es → SpellsString s ('"' :: es ++ ['"'])

-- ============================================================== numbers

/-- The characters of decimal digits. -/
def digitChars (ds : List (Fin 10)) : List Char :=
  ds.map fun d => Nat.digitChar d.val

/-- The values of decimal digits. -/
def digitValues (ds : List (Fin 10)) : List Nat := ds.map fun d => d.val

/-- The exponent of a number, as it is written. -/
structure Power where
  letter : Char
  /-- Whether there is a sign, and if so, whether it is a minus. -/
  sign : Option Bool
  digits : List (Fin 10)
  letter_eq : letter = 'e' ∨ letter = 'E'
  digits_ne : digits ≠ []
deriving DecidableEq

/-- The text of a sign. -/
def signChars : Option Bool → List Char
  | none => []
  | some false => ['+']
  | some true => ['-']

/-- The text of an exponent. -/
def Power.text (p : Power) : List Char :=
  p.letter :: (signChars p.sign ++ digitChars p.digits)

/-- A number, as it is written. Only the zero may begin with a zero; a
number without digits in its fraction has no point. -/
structure Numeral where
  isNegative : Bool
  whole : List (Fin 10)
  fraction : List (Fin 10)
  power : Option Power
  whole_ne : whole ≠ []
  whole_plain : whole.head? = some 0 → whole = [0]

namespace Numeral

/-- The text of a fraction, with its point. -/
def fractionText : List (Fin 10) → List Char
  | [] => []
  | ds => '.' :: digitChars ds

/-- The text of an exponent, if there is one. -/
def powerText : Option Power → List Char
  | none => []
  | some p => p.text

/-- The text of a number. -/
def text (m : Numeral) : List Char :=
  (if m.isNegative then ['-'] else []) ++ digitChars m.whole
    ++ fractionText m.fraction ++ powerText m.power

/-- A decimal number, if it is not too large for a double. -/
def decimal? (isNegative : Bool) (significand : Nat) (exponent : Int) :
    Option Number :=
  if (Number.approximate significand exponent).isSome then
    some (.decimal isNegative significand exponent)
  else none

/-- What is held of a significand with a power of ten, the written one
counted in. One that is too small for anything leaves zero; nothing is
held of a number that is too large. -/
def scaled? (isNegative : Bool) (significand : Nat) (shift : Int) :
    Option Power → Option Number
  | none => decimal? isNegative significand shift
  | some p =>
    match Cursor.exponentValue 0 0 (digitValues p.digits) with
    | .ok e =>
      decimal? isNegative significand
        (if p.sign = some true then shift - e else shift + e)
    | .error _ =>
      if significand = 0 ∨ p.sign = some true then
        some (.decimal isNegative 0 0)
      else none

/-- What is held of a number: an integer as such, if it fits into 64 bits;
otherwise as many digits as do, with the power of ten that goes with
them. -/
def held? (m : Numeral) : Option Number :=
  let (inWhole, taken) := Cursor.gather 0 (digitValues m.whole)
  let (significand, takenOff) := Cursor.gather inWhole (digitValues m.fraction)
  if m.fraction = [] ∧ m.power = none ∧ taken = m.whole.length then
    some (Cursor.integer m.isNegative significand)
  else scaled? m.isNegative significand
    (m.whole.length - taken - takenOff) m.power

end Numeral

-- ============================================================ documents

/-- A text with blanks around it. -/
inductive Padded (P : List Char → Prop) : List Char → Prop
  | around {a t b : List Char} : Blank a → P t → Blank b →
    Padded P (a ++ t ++ b)

/-- Things by their texts, with a comma between any two of them and blanks
around each. -/
inductive Listed {α : Type} (P : α → List Char → Prop) :
    List α → List Char → Prop
  | one {x : α} {a t b : List Char} : Blank a → P x t → Blank b →
    Listed P [x] (a ++ t ++ b)
  | more {x : α} {xs : List α} {a t b ts : List Char} :
      Blank a → P x t → Blank b → Listed P xs ts →
        Listed P (x :: xs) (a ++ t ++ b ++ ',' :: ts)

mutual

/-- The texts of a document, from the first character that is no blank to
the last. -/
inductive Spells : Value → List Char → Prop
  | null : Spells .null "null".toList
  | true : Spells (.bool true) "true".toList
  | false : Spells (.bool false) "false".toList
  | number {m : Numeral} {n : Number} : m.held? = some n →
    Spells (.number n) m.text
  | string {s : String} {cs : List Char} : SpellsString s cs →
    Spells (.string s) cs
  | emptyArray {ws : List Char} : Blank ws →
    Spells (.array []) ('[' :: ws ++ [']'])
  | array {items : List Value} {cs : List Char} :
      Listed Spells items cs → Spells (.array items) ('[' :: cs ++ [']'])
  | emptyObject {ws : List Char} : Blank ws →
    Spells (.object []) ('\x7b' :: ws ++ ['\x7d'])
  | object {members : List (String × Value)} {cs : List Char} :
      Listed SpellsMember members cs →
        Spells (.object members) ('\x7b' :: cs ++ ['\x7d'])

/-- The texts of a member of an object. -/
inductive SpellsMember : String × Value → List Char → Prop
  | member {key : String} {v : Value} {ks a b cs : List Char} :
      SpellsString key ks → Blank a → Blank b → Spells v cs →
      SpellsMember (key, v) (ks ++ a ++ ':' :: (b ++ cs))

end

/-- The texts of a document, with blanks around them. -/
def SpellsDocument (v : Value) : List Char → Prop := Padded (Spells v)

/-- A document may do without blanks around it. -/
theorem Spells.document {v : Value} {cs : List Char} (h : Spells v cs) :
    SpellsDocument v cs := by
  have := Padded.around .nil h .nil
  rwa [List.nil_append, List.append_nil] at this

-- ================================================================ depth

mutual

/-- How many levels of lists and objects a document has. -/
def Value.depth : Value → Nat
  | .array items => itemsDepth items + 1
  | .object members => membersDepth members + 1
  | _ => 0

/-- The depth of the deepest item of a list. -/
def itemsDepth : List Value → Nat
  | [] => 0
  | v :: rest => max v.depth (itemsDepth rest)

/-- The depth of the deepest member of an object. -/
def membersDepth : List (String × Value) → Nat
  | [] => 0
  | (_, v) :: rest => max v.depth (membersDepth rest)

end

/-- A list is as deep as the deepest of its items. -/
theorem itemsDepth_le_iff {items : List Value} {d : Nat} :
    itemsDepth items ≤ d ↔ ∀ v ∈ items, v.depth ≤ d := by
  induction items with
  | nil => simp [itemsDepth]
  | cons v rest ih => rw [itemsDepth, Nat.max_le, ih, List.forall_mem_cons]

/-- So is an object. -/
theorem membersDepth_le_iff {members : List (String × Value)} {d : Nat} :
    membersDepth members ≤ d ↔ ∀ m ∈ members, m.2.depth ≤ d := by
  induction members with
  | nil => simp [membersDepth]
  | cons m rest ih => rw [membersDepth, Nat.max_le, ih, List.forall_mem_cons]

-- ============================================================= distinctness

mutual

/-- No object in the document has the same key twice. -/
def Value.Distinct : Value → Prop
  | .array items => ItemsDistinct items
  | .object members => (members.map (·.1)).Nodup ∧ MembersDistinct members
  | _ => True

/-- The same for the items of a list. -/
def ItemsDistinct : List Value → Prop
  | [] => True
  | v :: rest => v.Distinct ∧ ItemsDistinct rest

/-- The same for the members of an object. -/
def MembersDistinct : List (String × Value) → Prop
  | [] => True
  | (_, v) :: rest => v.Distinct ∧ MembersDistinct rest

end

/-- Whether keys repeat further down is asked of each member. -/
theorem membersDistinct_iff {members : List (String × Value)} :
    MembersDistinct members ↔ ∀ m ∈ members, m.2.Distinct := by
  induction members with
  | nil => simp [MembersDistinct]
  | cons m rest ih => rw [MembersDistinct, ih, List.forall_mem_cons]

end PatternCheck.Json
