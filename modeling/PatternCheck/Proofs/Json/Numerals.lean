import PatternCheck.Proofs.Json.Strings

/-
Numbers, read from their texts. A number has no mark at its end, so what is
said here holds only before something that cannot be a part of it, as
`Ends` says of all that may follow a value. The digits of each part are
read at once (`digits_encode`); from then on the reader and
`Numeral.held?` go by the same values.
-/

namespace PatternCheck.Json.Cursor

open Text.Utf8 (encode encode_cons_ascii encode_append)

/-- Whether some bytes begin with what may follow a value, or are none. -/
def Ends (bytes : List UInt8) : Prop :=
  ∀ b ∈ bytes.head?, isBlank b ∨ b = ','.toUInt8 ∨ b = ']'.toUInt8
    ∨ b = '\x7d'.toUInt8

/-- Whether some bytes begin with no digit. -/
def NoDigit (bytes : List UInt8) : Prop := ∀ b ∈ bytes.head?, isDigit b = false

/-- What may follow a value goes on with no number. -/
theorem Ends.stops {bytes : List UInt8} (h : Ends bytes) (pos : Nat) :
    NoDigit bytes ∧ at? ⟨bytes, pos⟩ '.' = false
      ∧ atExponent ⟨bytes, pos⟩ = false := by
  cases bytes with
  | nil => exact ⟨fun b hb => absurd hb (by simp), rfl, rfl⟩
  | cons b bytes =>
      have hb :
          isDigit b = false ∧ b ≠ '.'.toUInt8 ∧ b ≠ 'e'.toUInt8
            ∧ b ≠ 'E'.toUInt8 := by
        have hb := h b rfl
        simp only [isBlank, Bool.or_eq_true, decide_eq_true_eq] at hb
        rcases hb with ((((rfl | rfl) | rfl) | rfl) | rfl | rfl | rfl)
          <;> decide
      obtain ⟨hd, hp, he, hE⟩ := hb
      refine ⟨fun b' hb' => ?_, ?_, ?_⟩
      · cases hb'
        exact hd
      · simp [at?, hp]
      · simp [atExponent, at?, he, hE]

-- =============================================================== digits

/-- The byte of a digit. -/
theorem digit?_digitChar (d : Fin 10) :
    (Nat.digitChar d.val).toNat < 0x80
      ∧ digit? (Nat.digitChar d.val).toUInt8 = some d.val := by
  revert d
  decide

theorem isDigit_digitChar (d : Fin 10) :
    isDigit (Nat.digitChar d.val).toUInt8 = true := by
  rw [isDigit, (digit?_digitChar d).2]
  rfl

/-- Digits are read up to the first byte that is none. -/
theorem digits_encode {rest : List UInt8} (h : NoDigit rest)
    (ds : List (Fin 10)) (pos : Nat) :
    digits ⟨encode (digitChars ds) ++ rest, pos⟩
      = (digitValues ds, ⟨rest, pos + ds.length⟩) := by
  have key :
      ((encode (digitChars ds) ++ rest).takeWhile isDigit).filterMap digit?
          = digitValues ds
        ∧ ((encode (digitChars ds) ++ rest).takeWhile isDigit).length
          = ds.length
        ∧ (encode (digitChars ds) ++ rest).dropWhile isDigit = rest := by
    induction ds with
    | nil =>
        cases rest with
        | nil => exact ⟨rfl, rfl, rfl⟩
        | cons b rest =>
            have hb : isDigit b = false := h b rfl
            simp [digitChars, digitValues, hb]
    | cons d ds ih =>
        obtain ⟨hv, hn, hr⟩ := ih
        obtain ⟨ha, hd⟩ := digit?_digitChar d
        have hd' := isDigit_digitChar d
        rw [digitChars, List.map_cons, encode_cons_ascii ha, List.cons_append,
          List.takeWhile_cons_of_pos hd', List.dropWhile_cons_of_pos hd']
        refine ⟨?_, ?_, hr⟩
        · rw [List.filterMap_cons_some hd]
          exact congrArg (d.val :: ·) hv
        · exact congrArg (· + 1) hn
  rw [digits, key.1, key.2.1, key.2.2]

theorem digitValues_ne {ds : List (Fin 10)} (h : ds ≠ []) :
    (digitValues ds).isEmpty = false := by
  simpa [digitValues] using h

-- ============================================================= exponents

/-- Whether reading gives a thing and leaves the given bytes. -/
def Gives {α : Type} (r : Reading α) (a : α) (rest : List UInt8) : Prop :=
  ∃ pos, r = .ok (a, ⟨rest, pos⟩)

theorem decimal_gives {isNegative : Bool} {significand : Nat} {shift : Int}
    {n : Number} (h : Numeral.decimal? isNegative significand shift = some n)
    (rest : List UInt8) (pos : Nat) :
    Gives (decimal ⟨rest, pos⟩ isNegative significand shift) n rest := by
  rw [Numeral.decimal?] at h
  split at h
  · rename_i hs
    obtain ⟨d, hd⟩ := Option.isSome_iff_exists.1 hs
    cases h
    exact ⟨pos, by rw [decimal, hd]⟩
  · cases h

/-- Digits begin with a digit. -/
theorem encode_digitChars {ds : List (Fin 10)} (h : ds ≠ []) :
    ∃ b bs, encode (digitChars ds) = b :: bs ∧ isDigit b = true := by
  obtain ⟨d, ds, rfl⟩ := List.exists_cons_of_ne_nil h
  refine ⟨(Nat.digitChar d.val).toUInt8, encode (digitChars ds), ?_,
    isDigit_digitChar d⟩
  rw [digitChars, List.map_cons, encode_cons_ascii (digit?_digitChar d).1]
  rfl

/-- A digit is nothing else. -/
theorem ne_of_isDigit {b x : UInt8} (h : isDigit b = true)
    (hx : isDigit x = false) : b ≠ x := by
  rintro rfl
  rw [h] at hx
  cases hx

theorem at?_of_isDigit {b : UInt8} (h : isDigit b = true) {x : Char}
    (hx : isDigit x.toUInt8 = false) (bs : List UInt8) (pos : Nat) :
    at? ⟨b :: bs, pos⟩ x = false := by
  simp [at?, ne_of_isDigit h hx]

/-- The sign of an exponent before its digits. -/
theorem exponentSign_encode (p : Power) (rest : List UInt8) (pos : Nat) :
    ∃ pos', (advance ⟨encode p.text ++ rest, pos⟩ 1).exponentSign
      = (decide (p.sign = some true),
        ⟨encode (digitChars p.digits) ++ rest, pos'⟩) := by
  obtain ⟨b, bs, hb, hdigit⟩ := encode_digitChars p.digits_ne
  have hplus :=
    at?_of_isDigit hdigit (x := '+') (by decide) (bs ++ rest) (pos + 1)
  have hminus :=
    at?_of_isDigit hdigit (x := '-') (by decide) (bs ++ rest) (pos + 1)
  have hl : p.letter.toNat < 0x80 := by
    rcases p.letter_eq with h | h <;> rw [h] <;> decide
  rw [Power.text, encode_cons_ascii hl, List.cons_append, advance,
    List.drop_one, List.tail_cons]
  cases hs : p.sign with
  | none =>
      refine ⟨pos + 1, ?_⟩
      simp [signChars, hb, exponentSign, hplus, hminus]
  | some isDown =>
      refine ⟨pos + 1 + 1, ?_⟩
      cases isDown <;> rw [signChars, List.singleton_append,
        encode_cons_ascii (by decide)] <;> rfl

/-- An exponent, with what it makes of the number before it. -/
theorem exponent_gives {isNegative : Bool} {significand : Nat} {shift : Int}
    {p : Power} {n : Number}
    (h : Numeral.scaled? isNegative significand shift (some p) = some n)
    {rest : List UInt8} (hrest : NoDigit rest) (pos : Nat) :
    Gives (exponent ⟨encode p.text ++ rest, pos⟩ isNegative significand shift)
      n rest := by
  obtain ⟨pos', hsign⟩ := exponentSign_encode p rest pos
  obtain ⟨b, bs, hb, hdigit⟩ := encode_digitChars p.digits_ne
  have hdigits := digits_encode hrest p.digits pos'
  rw [hb] at hdigits hsign
  rw [exponent, hsign]
  simp only [List.cons_append, hdigit, Bool.not_true, Bool.false_eq_true,
    if_false] at hdigits ⊢
  rw [hdigits]
  simp only [Numeral.scaled?] at h
  cases he : exponentValue 0 0 (digitValues p.digits) with
  | ok e =>
      simp only [he, decide_eq_true_eq] at h ⊢
      exact decimal_gives h rest _
  | error count =>
      simp only [he] at h
      split at h
      · rename_i hzero
        cases h
        exact ⟨pos' + p.digits.length, by simp [hzero]⟩
      · cases h

-- =============================================================== numbers

/-- What follows the digits of a number goes on with no digits and has no
point. -/
theorem powerText_stops (power : Option Power) {rest : List UInt8}
    (hrest : Ends rest) (pos : Nat) :
    NoDigit (encode (Numeral.powerText power) ++ rest)
      ∧ at? ⟨encode (Numeral.powerText power) ++ rest, pos⟩ '.' = false
      ∧ atExponent ⟨encode (Numeral.powerText power) ++ rest, pos⟩
        = power.isSome := by
  cases power with
  | none => simpa [Numeral.powerText] using hrest.stops pos
  | some p =>
      have hl : p.letter.toNat < 0x80 := by
        rcases p.letter_eq with h | h <;> rw [h] <;> decide
      rw [Numeral.powerText, Power.text, encode_cons_ascii hl,
        List.cons_append]
      refine ⟨fun b hb => ?_, ?_, ?_⟩
      · cases hb
        rcases p.letter_eq with h | h <;> rw [h] <;> decide
      · have hp : p.letter.toUInt8 ≠ '.'.toUInt8 := by
          rcases p.letter_eq with h | h <;> rw [h] <;> decide
        simp [at?, hp]
      · rcases p.letter_eq with h | h <;> rw [h] <;> simp [atExponent, at?]

/-- What may follow the digits of a number: an exponent, or its end. -/
theorem power_gives {isNegative : Bool} {significand : Nat} {shift : Int}
    {power : Option Power} {n : Number}
    (h : Numeral.scaled? isNegative significand shift power = some n)
    {rest : List UInt8} (hrest : Ends rest) (pos : Nat) :
    let after : Cursor := ⟨encode (Numeral.powerText power) ++ rest, pos⟩
    Gives (if after.atExponent then after.exponent isNegative significand shift
      else after.decimal isNegative significand shift) n rest := by
  intro after
  have hat : after.atExponent = power.isSome :=
    (powerText_stops power hrest pos).2.2
  rw [hat]
  cases power with
  | none => exact decimal_gives h rest pos
  | some p => exact exponent_gives h (hrest.stops pos).1 pos

/-- A fraction with all that follows it. -/
theorem fraction_gives {isNegative : Bool} {significand : Nat} {shift : Int}
    {ds : List (Fin 10)} (hds : ds ≠ []) {power : Option Power} {n : Number}
    (h : Numeral.scaled? isNegative (gather significand (digitValues ds)).1
      (shift - (gather significand (digitValues ds)).2) power = some n)
    {rest : List UInt8} (hrest : Ends rest) (pos : Nat) :
    Gives
      (fraction ⟨encode ('.' :: digitChars ds)
        ++ (encode (Numeral.powerText power) ++ rest),
      pos⟩ isNegative significand shift) n rest := by
  have hdigits := digits_encode (powerText_stops power hrest 0).1 ds (pos + 1)
  rw [encode_cons_ascii (by decide), List.cons_append]
  simp only [fraction, advance, List.drop_succ_cons, List.drop_zero, hdigits,
    digitValues_ne hds, Bool.false_eq_true, if_false]
  exact power_gives h hrest _

/-- What follows the whole part of a number goes on with no digit, and with
a point if there is a fraction. -/
theorem fractionText_stops (ds : List (Fin 10)) {rest : List UInt8}
    (hrest : NoDigit rest) (hpoint : at? ⟨rest, 0⟩ '.' = false) :
    NoDigit (encode (Numeral.fractionText ds) ++ rest)
      ∧ ∀ pos, at? ⟨encode (Numeral.fractionText ds) ++ rest, pos⟩ '.'
        = !ds.isEmpty := by
  cases ds with
  | nil => exact ⟨hrest, fun pos => hpoint⟩
  | cons d ds =>
      rw [Numeral.fractionText, encode_cons_ascii (by decide),
        List.cons_append]
      · refine ⟨fun b hb => ?_, fun pos => rfl⟩
        cases hb
        decide
      · exact List.cons_ne_nil d ds

/-- No number but zero begins with a zero. -/
theorem zero_not_first {m : Numeral} {b : UInt8} {bs rest : List UInt8}
    (hb : encode (digitChars m.whole) = b :: bs) (hrest : NoDigit rest) :
    (decide (b = '0'.toUInt8) && (bs ++ rest).head?.any isDigit) = false := by
  rw [Bool.and_eq_false_iff]
  by_cases hz : b = '0'.toUInt8
  · refine .inr ?_
    obtain ⟨d, ds, hw⟩ := List.exists_cons_of_ne_nil m.whole_ne
    have hzero :
        ∀ d : Fin 10, (Nat.digitChar d.val).toUInt8 = '0'.toUInt8 → d = 0 := by
      decide
    rw [hw, digitChars, List.map_cons,
      encode_cons_ascii (digit?_digitChar d).1] at hb
    cases hb
    have hd : d = 0 := hzero d hz
    have hds : ds = [] := by
      have := m.whole_plain (by rw [hw, hd]; rfl)
      rw [hw] at this
      exact (List.cons.inj this).2
    subst hds
    cases rest with
    | nil => rfl
    | cons b rest => simpa using hrest b rfl
  · exact .inl (decide_eq_false hz)

/-- The digits of a number with all that follows them. -/
theorem unsigned_gives {m : Numeral} {n : Number} (h : m.held? = some n)
    {rest : List UInt8} (hrest : Ends rest) (pos : Nat) :
    Gives
      (unsigned ⟨encode (digitChars m.whole)
        ++ (encode (Numeral.fractionText m.fraction)
      ++ (encode (Numeral.powerText m.power) ++ rest)),
        pos⟩ m.isNegative) n rest := by
  obtain ⟨hdigit, hpoint, -⟩ := powerText_stops m.power hrest 0
  obtain ⟨hdigit, hpoint'⟩ := fractionText_stops m.fraction hdigit hpoint
  have hdigits := digits_encode hdigit m.whole pos
  obtain ⟨b, bs, hb, hfirst⟩ := encode_digitChars m.whole_ne
  have hzero := zero_not_first hb hdigit
  rw [hb, List.cons_append] at hdigits ⊢
  simp only [unsigned, hfirst, hzero, hdigits, hpoint', Bool.not_true,
    Bool.false_eq_true, if_false]
  have hlen : (digitValues m.whole).length = m.whole.length :=
    List.length_map _
  rw [hlen]
  simp only [Numeral.held?] at h
  cases hf : m.fraction with
  | cons d ds =>
      rw [hf] at h
      rw [if_neg (by simp)] at h
      simp only [List.isEmpty_cons, Bool.not_false, if_true]
      exact fraction_gives (List.cons_ne_nil d ds) h hrest _
  | nil =>
      have hgather (s : Nat) : gather s (digitValues []) = (s, 0) := rfl
      have hat := (powerText_stops m.power hrest (pos + m.whole.length)).2.2
      simp only [hf, hgather, Int.ofNat_zero, Int.sub_zero, true_and] at h
      simp only [List.isEmpty_nil, Bool.not_true, Bool.false_eq_true, if_false,
        Numeral.fractionText, Text.Utf8.encode_nil, List.nil_append]
      by_cases hint : m.power = none
        ∧ (gather 0 (digitValues m.whole)).2 = m.whole.length
      · rw [if_pos hint] at h
        cases h
        obtain ⟨hnone, htaken⟩ := hint
        rw [hnone] at hat
        simp only [hnone, hat, htaken, if_true]
        exact ⟨_, rfl⟩
      · rw [if_neg hint] at h
        have hp := power_gives h hrest (pos + m.whole.length)
        by_cases htaken : (gather 0 (digitValues m.whole)).2 = m.whole.length
        · have hsome : m.power.isSome := by
            rw [Option.isSome_iff_ne_none]
            exact fun hnone => hint ⟨hnone, htaken⟩
          simpa [hat, hsome] using hp
        · simpa [htaken] using hp

/-- A number is read from any of its texts, before anything that may follow
a value. -/
theorem number_gives {m : Numeral} {n : Number} (h : m.held? = some n)
    {rest : List UInt8} (hrest : Ends rest) (pos : Nat) :
    Gives (number ⟨encode m.text ++ rest, pos⟩) n rest := by
  have hu := unsigned_gives h hrest
  rw [Numeral.text, encode_append, encode_append, encode_append]
  simp only [List.append_assoc]
  cases hneg : m.isNegative with
  | true =>
      rw [hneg] at hu
      rw [if_pos rfl, encode_cons_ascii (by decide)]
      exact hu (pos + 1)
  | false =>
      obtain ⟨b, bs, hb, hfirst⟩ := encode_digitChars m.whole_ne
      have hminus := at?_of_isDigit hfirst (x := '-') (by decide)
      rw [hneg] at hu
      simp only [Bool.false_eq_true, if_false, Text.Utf8.encode_nil,
        List.nil_append, number]
      rw [hb, List.cons_append] at hu ⊢
      rw [if_neg (by simp [hminus])]
      exact hu pos

end PatternCheck.Json.Cursor
