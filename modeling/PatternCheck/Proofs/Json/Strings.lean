import PatternCheck.Json.Cursor
import PatternCheck.Proofs.Json.Grammar
import PatternCheck.Proofs.Text.Utf8

/-
Blanks and strings, read from their texts. A reader passes over exactly the
blanks that were written (`blanks_encode`), and however a character of a
string is written, it is that character which is read
(`stringFrom_spellsChar`); a whole string follows one character at a time.
-/

namespace PatternCheck.Json.Cursor

open Text.Utf8
  (encode encodePoint encode_cons_ascii encode_append toNat_toUInt8)

-- =============================================================== blanks

theorem blanks_of_not_blank {b : UInt8} (h : isBlank b = false)
    (rest : List UInt8) (pos : Nat) :
    blanks ⟨b :: rest, pos⟩ = ⟨b :: rest, pos⟩ := by
  simp [blanks, h]

theorem blanks_of_blank {b : UInt8} (h : isBlank b = true) (rest : List UInt8)
    (pos : Nat) : blanks ⟨b :: rest, pos⟩ = blanks ⟨rest, pos + 1⟩ := by
  simp only [blanks, List.dropWhile_cons_of_pos h,
    List.takeWhile_cons_of_pos h, List.length_cons, mk.injEq, true_and]
  omega

/-- A blank takes one byte, and is one for the reader. -/
theorem isBlank_of_blank {c : Char} {ws : List Char} (h : Blank (c :: ws)) :
    c.toNat < 0x80 ∧ isBlank c.toUInt8 = true ∧ Blank ws := by
  have hc : c.toNat < 0x80 ∧ isBlank c.toUInt8 = true := by
    rcases h c List.mem_cons_self with rfl | rfl | rfl | rfl <;> decide
  exact ⟨hc.1, hc.2, fun c hc => h c (List.mem_cons_of_mem _ hc)⟩

/-- Blanks that are written are passed over, and whatever follows is looked
at next. -/
theorem blanks_encode {ws : List Char} (h : Blank ws) (rest : List UInt8) :
    ∀ pos, blanks ⟨encode ws ++ rest, pos⟩
      = blanks ⟨rest, pos + ws.length⟩ := by
  induction ws with
  | nil => intro pos; rfl
  | cons c ws ih =>
      intro pos
      obtain ⟨hc, hblank, hws⟩ := isBlank_of_blank h
      rw [encode_cons_ascii hc, List.cons_append,
        blanks_of_blank hblank, ih hws, List.length_cons]
      congr 2
      omega

-- ============================================================== escapes

/-- A hexadecimal digit takes one byte and has its value. -/
theorem hexDigit?_of_hexDigit {n : Nat} {c : Char} (h : HexDigit n c) :
    c.toNat < 0x80 ∧ hexDigit? c.toUInt8 = some n := by
  have h0 : '0'.toNat = 0x30 := rfl
  have ha : 'a'.toNat = 0x61 := rfl
  have hA : 'A'.toNat = 0x41 := rfl
  have hc : c.toNat < 0x80 := by
    cases h <;> omega
  refine ⟨hc, ?_⟩
  simp only [hexDigit?, toNat_toUInt8 hc]
  cases h with
  | decimal hn hc =>
      rw [if_pos (by omega)]
      congr 1
      omega
  | small hn hc =>
      rw [if_neg (by omega), if_neg (by omega), if_pos (by omega)]
      congr 1
      omega
  | capital hn hc =>
      rw [if_neg (by omega), if_pos (by omega)]
      congr 1
      omega

/-- Four hexadecimal digits take four bytes, and have their value with
anything after them. -/
theorem hexFour_encode {n : Nat} {ds : List Char} (h : HexFour n ds) :
    (encode ds).length = 4 ∧
      ∀ rest pos, hexFour ⟨encode ds ++ rest, pos⟩ = .ok n := by
  obtain @⟨a, b, c, d, w, x, y, z, hw, hx, hy, hz⟩ := h
  obtain ⟨hw, ha⟩ := hexDigit?_of_hexDigit hw
  obtain ⟨hx, hb⟩ := hexDigit?_of_hexDigit hx
  obtain ⟨hy, hc⟩ := hexDigit?_of_hexDigit hy
  obtain ⟨hz, hd⟩ := hexDigit?_of_hexDigit hz
  rw [encode_cons_ascii hw, encode_cons_ascii hx, encode_cons_ascii hy,
    encode_cons_ascii hz]
  refine ⟨rfl, fun rest pos => ?_⟩
  have hv : hexValue? w.toUInt8 x.toUInt8 y.toUInt8 z.toUInt8
      = some (((a * 16 + b) * 16 + c) * 16 + d) := by
    simp [hexValue?, ha, hb, hc, hd]
  simp only [hexFour, List.cons_append, hv]

/-- The number of a character is no half of a surrogate pair. -/
theorem numberedChar_encode {c : Char} {ds : List Char}
    (h : HexFour c.toNat ds) (rest : List UInt8) (pos : Nat) :
    numberedChar ⟨encode ds ++ rest, pos⟩ = .ok (c, 4) := by
  have hc := Text.Utf8.toNat_bounds c
  have hl : isLeading c.toNat = false := by
    simp only [isLeading, Bool.and_eq_false_iff, decide_eq_false_iff_not]
    omega
  have ht : isTrailing c.toNat = false := by
    simp only [isTrailing, Bool.and_eq_false_iff, decide_eq_false_iff_not]
    omega
  simp [numberedChar, bind, Except.bind, (hexFour_encode h).2, hl, ht]

/-- Two halves of a surrogate pair make the character of the pair. -/
theorem numberedChar_encode_pair {lead trail : Nat} {ds es : List Char}
    (hd : HexFour lead ds) (he : HexFour trail es) (hl : 0xD800 ≤ lead)
    (hl' : lead < 0xDC00) (ht : 0xDC00 ≤ trail) (ht' : trail < 0xE000)
    (rest : List UInt8) (pos : Nat) :
    numberedChar
      ⟨encode ds ++ '\\'.toUInt8 :: 'u'.toUInt8 :: (encode es ++ rest), pos⟩
      = .ok (paired lead trail, 10) := by
  obtain ⟨hlen, hdigits⟩ := hexFour_encode hd
  have hlead : isLeading lead = true ∧ isTrailing lead = false := by
    simp only [isLeading, isTrailing, Bool.and_eq_true, Bool.and_eq_false_iff,
      decide_eq_true_eq, decide_eq_false_iff_not]
    omega
  have htrail : isTrailing trail = true := by
    simp only [isTrailing, Bool.and_eq_true, decide_eq_true_eq]
    omega
  have hdrop (n : Nat) :
      (encode ds ++ '\\'.toUInt8 :: 'u'.toUInt8 :: (encode es ++ rest)).drop
          (4 + n)
        = ('\\'.toUInt8 :: 'u'.toUInt8 :: (encode es ++ rest)).drop n := by
    rw [List.drop_append, List.drop_of_length_le (by omega), hlen,
      List.nil_append]
    congr 1
    omega
  have h4 := hdrop 0
  have h5 := hdrop 1
  have h6 := hdrop 2
  simp only [Nat.add_zero, List.drop_zero, List.drop_succ_cons,
    Nat.reduceAdd] at h4 h5 h6
  simp [numberedChar, bind, Except.bind, hdigits, advance, h4, h5, h6,
    (hexFour_encode he).2, hlead, htrail, pairMark, at?]

/-- A letter that may follow a backslash takes one byte, is no `u`, and
stands for its character. -/
theorem lettered?_of_mem {letter c : Char}
    (h : (letter, c) ∈ letteredEscapes) :
    letter.toNat < 0x80 ∧ letter.toUInt8 ≠ 'u'.toUInt8
      ∧ lettered? letter.toUInt8 = some c := by
  revert h
  simp only [letteredEscapes, List.mem_cons, Prod.mk.injEq, List.not_mem_nil,
    or_false]
  rintro (⟨rfl, rfl⟩ | ⟨rfl, rfl⟩ | ⟨rfl, rfl⟩ | ⟨rfl, rfl⟩ | ⟨rfl, rfl⟩ |
    ⟨rfl, rfl⟩ | ⟨rfl, rfl⟩ | ⟨rfl, rfl⟩) <;> decide

-- ============================================================== strings

/-- A character of a string that is written as itself. -/
theorem stringFrom_itself {c : Char} (hq : c ≠ '"') (hb : c ≠ '\\')
    (hc : 0x20 ≤ c.toNat) (acc : List Char) (pos : Nat) (rest : List UInt8) :
    stringFrom acc none pos (encodePoint c.toNat ++ rest)
      = stringFrom (c :: acc) none (pos + c.utf8Size) rest := by
  obtain ⟨b, bs, hbs, hhead⟩ := Text.Utf8.encodePoint_head c
  have hlen := Text.Utf8.encodePoint_length c
  have hpiece := Text.Utf8.piece_encodePoint c rest
  rw [hbs] at hlen hpiece ⊢
  -- the first byte is none of those that mean something else
  have hne (x : Char) (hx : c ≠ x) (hx' : x.toNat < 0x80) : b ≠ x.toUInt8 := by
    intro h
    have := toNat_toUInt8 hx'
    have : c.toNat ≠ x.toNat := fun h => hx (Char.toNat_inj.1 h)
    rw [h] at hhead
    omega
  have hlow : ¬ b < 0x20 := by
    rw [UInt8.lt_iff_toNat_lt, show (0x20 : UInt8).toNat = 0x20 from rfl]
    omega
  rw [List.cons_append] at hpiece ⊢
  rw [stringFrom, if_neg (hne '"' hq (by decide)),
    if_neg (hne '\\' hb (by decide)), if_neg hlow, hpiece]
  have hdrop : (bs ++ rest).drop (c.utf8Size - 1) = rest := by
    rw [← hlen, List.length_cons, Nat.add_sub_cancel, List.drop_left]
  simp only [hdrop]

/-- A character of a string that is written by an escape. -/
theorem stringFrom_escape {c : Char} {es : List UInt8} {rest : List UInt8}
    {pos : Nat} (h : escape ⟨es ++ rest, pos + 1⟩ = .ok (c, es.length))
    (acc : List Char) :
    stringFrom acc none pos ('\\'.toUInt8 :: es ++ rest)
      = stringFrom (c :: acc) none (pos + ('\\'.toUInt8 :: es).length)
        rest := by
  rw [List.cons_append, stringFrom, if_neg (by decide), if_pos rfl, h]
  simp only [List.drop_left, List.length_cons, Nat.add_assoc, Nat.add_comm 1]

/-- However a character of a string is written, it is what is read. -/
theorem stringFrom_spellsChar {c : Char} {es : List Char} (h : SpellsChar c es)
    (acc : List Char) (pos : Nat) (rest : List UInt8) :
    stringFrom acc none pos (encode es ++ rest)
      = stringFrom (c :: acc) none (pos + (encode es).length) rest := by
  have hb : ∀ cs, encode ('\\' :: cs) = '\\'.toUInt8 :: encode cs :=
    encode_cons_ascii (by decide)
  have hu : ∀ cs, encode ('u' :: cs) = 'u'.toUInt8 :: encode cs :=
    encode_cons_ascii (by decide)
  cases h with
  | itself hq hb hc =>
      have := stringFrom_itself hq hb hc acc pos rest
      simpa [Text.Utf8.encodePoint_length] using this
  | @lettered letter _ hmem =>
      obtain ⟨hl, hne, hc⟩ := lettered?_of_mem hmem
      rw [hb, encode_cons_ascii hl, Text.Utf8.encode_nil]
      refine stringFrom_escape ?_ acc
      simp [escape, hne, hc]
  | @numbered _ ds hd =>
      rw [hb, hu]
      refine stringFrom_escape ?_ acc
      simp [escape, advance, numberedChar_encode hd, (hexFour_encode hd).1,
        Except.map]
  | @paired _ lead trail ds es hd he hl hl' ht ht' hc =>
      have hp : Cursor.paired lead trail = c := by
        have hn :
            (lead - 0xD800) * 0x400 + (trail - 0xDC00) + 0x10000
              = c.toNat := by omega
        rw [Cursor.paired, hn, Char.ofNat_toNat]
      have hread :=
        numberedChar_encode_pair hd he hl hl' ht ht' rest (pos + 1 + 1)
      rw [encode_append, hb, hb, hu, hu, List.cons_append]
      refine stringFrom_escape ?_ acc
      simp [escape, advance, hread, hp, (hexFour_encode hd).1,
        (hexFour_encode he).1, Except.map]

/-- The characters of a string, up to the quotation mark after them. -/
theorem stringFrom_spellsChars {cs es : List Char} (h : SpellsChars cs es)
    (rest : List UInt8) :
    ∀ acc pos, stringFrom acc none pos (encode es ++ '"'.toUInt8 :: rest)
      = .ok (acc.reverse ++ cs, ⟨rest, pos + (encode es).length + 1⟩) := by
  induction h with
  | nil =>
      intro acc pos
      rw [Text.Utf8.encode_nil, List.nil_append, stringFrom, if_pos rfl]
      simp
  | cons hc _ ih =>
      intro acc pos
      rw [encode_append, List.append_assoc, stringFrom_spellsChar hc, ih]
      simp [Nat.add_assoc]

/-- A string is read from any of its texts. -/
theorem string_encode {s : String} {cs : List Char} (h : SpellsString s cs) :
    ∃ es, encode cs = '"'.toUInt8 :: es ∧
      ∀ rest pos, string ⟨es ++ rest, pos⟩
        = .ok (s, ⟨rest, pos + es.length⟩) := by
  cases h with | @quoted es h =>
  refine ⟨encode es ++ ['"'.toUInt8], ?_, fun rest pos => ?_⟩
  · rw [List.cons_append, encode_cons_ascii (by decide), encode_append]
    rfl
  · rw [List.append_assoc, string, List.singleton_append,
      stringFrom_spellsChars h]
    simp [Except.map, Nat.add_assoc]

end PatternCheck.Json.Cursor
