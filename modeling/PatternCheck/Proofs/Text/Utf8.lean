import PatternCheck.Text.Utf8
import Mathlib.Tactic.SplitIfs

/-
The encoding of texts: how long it is, with which bytes it begins, and that
reading gives back what was written. All of it is said of a single
character before anything else (`piece_encodePoint`), so that it serves a
reader that stops in the middle of a text as well as one that goes on to
the end.
-/

namespace PatternCheck.Text.Utf8

-- ============================================================= lengths

private theorem foldl_utf8Size (cs : List Char) :
    ∀ n, cs.foldl (fun n c => n + c.utf8Size) n = n + length cs := by
  unfold length
  induction cs with
  | nil => intro n; rfl
  | cons c cs ih =>
      intro n
      rw [List.foldl_cons, List.foldl_cons, ih (n + c.utf8Size),
        ih (0 + c.utf8Size)]
      omega

@[simp] theorem length_nil : length [] = 0 := rfl

@[simp] theorem length_cons (c : Char) (cs : List Char) :
    length (c :: cs) = c.utf8Size + length cs := by
  rw [length, List.foldl_cons, foldl_utf8Size, Nat.zero_add]

@[simp] theorem length_append (as bs : List Char) :
    length (as ++ bs) = length as + length bs := by
  induction as with
  | nil => simp
  | cons c as ih => simp [ih, Nat.add_assoc]

/-- The number of a character, which is no half of a surrogate pair. -/
theorem toNat_bounds (c : Char) :
    c.toNat < 0xD800 ∨ 0xDFFF < c.toNat ∧ c.toNat < 0x110000 := c.valid

/-- How many bytes a character has, by its number. -/
theorem utf8Size_eq (c : Char) :
    c.utf8Size = if c.toNat < 0x80 then 1 else if c.toNat < 0x800 then 2
      else if c.toNat < 0x10000 then 3 else 4 := by
  simp only [Char.utf8Size, UInt32.le_iff_toNat_le, UInt32.toNat_ofNatLT,
    Char.toNat_val]
  split_ifs <;> omega

/-- Characters of the first block take one byte. -/
theorem utf8Size_ascii {c : Char} (h : c.toNat < 0x80) : c.utf8Size = 1 := by
  rw [utf8Size_eq, if_pos h]

/-- ASCII text has one byte for every character. -/
theorem length_ascii {cs : List Char} (h : ∀ c ∈ cs, c.toNat < 0x80) :
    length cs = cs.length := by
  induction cs with
  | nil => rfl
  | cons c cs ih =>
      rw [length_cons, utf8Size_ascii (h c List.mem_cons_self),
        ih fun x hx => h x (List.mem_cons_of_mem _ hx), List.length_cons,
        Nat.add_comm]

/-- The encoding of a character has as many bytes as the character. -/
theorem encodePoint_length (c : Char) :
    (encodePoint c.toNat).length = c.utf8Size := by
  rw [utf8Size_eq, encodePoint]
  split_ifs <;> rfl

@[simp] theorem encode_nil : encode [] = [] := rfl

@[simp] theorem encode_cons (c : Char) (cs : List Char) :
    encode (c :: cs) = encodePoint c.toNat ++ encode cs := rfl

@[simp] theorem encode_append (as bs : List Char) :
    encode (as ++ bs) = encode as ++ encode bs := List.flatMap_append

/-- Characters of one byte are written as they are. -/
theorem encodePoint_ascii {c : Char} (h : c.toNat < 0x80) :
    encodePoint c.toNat = [c.toUInt8] := by
  rw [encodePoint, if_pos h]
  rfl

theorem encode_cons_ascii {c : Char} (h : c.toNat < 0x80) (cs : List Char) :
    encode (c :: cs) = c.toUInt8 :: encode cs := by
  rw [encode_cons, encodePoint_ascii h, List.singleton_append]

/-- A text between two characters of one byte, before other bytes. -/
theorem encode_enclosed {a b : Char} (ha : a.toNat < 0x80)
    (hb : b.toNat < 0x80) (cs : List Char) (rest : List UInt8) :
    encode (a :: cs ++ [b]) ++ rest
      = a.toUInt8 :: (encode cs ++ b.toUInt8 :: rest) := by
  rw [List.cons_append, encode_cons_ascii ha, encode_append,
    encode_cons_ascii hb, encode_nil, List.cons_append, List.append_assoc,
    List.singleton_append]

/-- A character of one byte keeps its number. -/
theorem toNat_toUInt8 {c : Char} (h : c.toNat < 0x80) :
    c.toUInt8.toNat = c.toNat := by
  have hbyte : c.toUInt8 = UInt8.ofNat c.toNat := rfl
  rw [hbyte, UInt8.toNat_ofNat']
  omega

/-- A longer character begins with a byte that no shorter one has. -/
theorem encodePoint_head (c : Char) :
    ∃ b bs, encodePoint c.toNat = b :: bs ∧
      (b.toNat = c.toNat ∨ 0x80 ≤ b.toNat ∧ 0x80 ≤ c.toNat) := by
  have hc := toNat_bounds c
  rw [encodePoint]
  split_ifs with h1 h2 h3
  · exact ⟨_, _, rfl, .inl (by rw [UInt8.toNat_ofNat']; omega)⟩
  · exact ⟨_, _, rfl, .inr ⟨by rw [UInt8.toNat_ofNat']; omega, by omega⟩⟩
  · exact ⟨_, _, rfl, .inr ⟨by rw [UInt8.toNat_ofNat']; omega, by omega⟩⟩
  · exact ⟨_, _, rfl, .inr ⟨by rw [UInt8.toNat_ofNat']; omega, by omega⟩⟩

/-- The bytes of a longer character are no characters of their own. -/
theorem mem_encodePoint {c : Char} {b : UInt8} (h : b ∈ encodePoint c.toNat) :
    b.toNat = c.toNat ∨ 0x80 ≤ b.toNat := by
  have hc := toNat_bounds c
  rw [encodePoint] at h
  split_ifs at h with h1 h2 h3 <;>
    simp only [continuation, List.mem_cons, List.not_mem_nil, or_false] at h
  · left
    rw [h, UInt8.toNat_ofNat']
    omega
  · right
    rcases h with rfl | rfl <;> rw [UInt8.toNat_ofNat'] <;> omega
  · right
    rcases h with rfl | rfl | rfl <;> rw [UInt8.toNat_ofNat'] <;> omega
  · right
    rcases h with rfl | rfl | rfl | rfl <;> rw [UInt8.toNat_ofNat'] <;> omega

theorem encode_length (cs : List Char) : (encode cs).length = length cs := by
  induction cs with
  | nil => rfl
  | cons c cs ih => simp [encodePoint_length, ih]

/-- The size of a text is how many bytes its encoding has. -/
theorem utf8ByteSize_eq (s : String) :
    s.utf8ByteSize = (encode s.toList).length := by
  have h :
      ∀ cs : List Char, (String.ofList cs).utf8ByteSize
        = (encode cs).length := by
    intro cs
    induction cs with
    | nil => rfl
    | cons c cs ih =>
        rw [String.ofList_cons, String.utf8ByteSize_append,
          String.utf8ByteSize_singleton, ih, encode_cons, List.length_append,
          encodePoint_length]
  have := h s.toList
  rwa [String.ofList_toList] at this

-- ============================================================= reading

/-- A following byte that is in bounds gives its six bits. -/
private theorem follow_continuation {lo hi m : Nat}
    (hlo : lo ≤ 0x80 + m % 0x40) (hhi : 0x80 + m % 0x40 ≤ hi)
    (value size n : Nat) (rest : List UInt8) :
    follow lo hi value size (n + 1) (continuation m :: rest)
      = follow 0x80 0xBF (value * 0x40 + m % 0x40) (size + 1) n rest := by
  have hm : m % 0x40 < 0x40 := Nat.mod_lt _ (by decide)
  have hb : (continuation m).toNat = 0x80 + m % 0x40 := by
    rw [continuation, UInt8.toNat_ofNat']
    omega
  have hbits : (0x80 + m % 0x40) % 0x40 = m % 0x40 := by omega
  rw [follow, hb, if_pos (by simpa using ⟨hlo, hhi⟩), hbits]

/-- A first byte, by its number. -/
private theorem piece_lead {b n lo hi value : Nat} (hb : 0x80 ≤ b)
    (hb' : b < 0x100) (hl : lead? b = some (n, lo, hi, value))
    (rest : List UInt8) :
    piece (UInt8.ofNat b :: rest) = follow lo hi value 1 n rest := by
  have ht : (UInt8.ofNat b).toNat = b := by
    rw [UInt8.toNat_ofNat']
    omega
  have hlt : ¬ UInt8.ofNat b < 0x80 := by
    rw [UInt8.lt_iff_toNat_lt, ht, show (0x80 : UInt8).toNat = 0x80 from rfl]
    omega
  simp only [piece, if_neg hlt, ht, hl]

/-- Reading begins with the character that was written first. -/
theorem piece_encodePoint (c : Char) (rest : List UInt8) :
    piece (encodePoint c.toNat ++ rest) = .char c c.utf8Size := by
  have hc := toNat_bounds c
  have back : Char.ofNat c.toNat = c := Char.ofNat_toNat c
  rw [utf8Size_eq, encodePoint]
  generalize c.toNat = n at hc back ⊢
  split_ifs with h1 h2 h3
  · have ht : (UInt8.ofNat n).toNat = n := by
      rw [UInt8.toNat_ofNat']
      omega
    have hlt : UInt8.ofNat n < 0x80 := by
      rw [UInt8.lt_iff_toNat_lt, ht]
      exact h1
    rw [List.singleton_append, piece, if_pos hlt, ht, back]
  · have hl : lead? (0xC0 + n / 0x40) = some (1, 0x80, 0xBF, n / 0x40) := by
      rw [lead?, if_neg (by omega), if_pos (by omega), Nat.add_sub_cancel_left]
    rw [List.cons_append, piece_lead (by omega) (by omega) hl,
      List.singleton_append, follow_continuation (by omega) (by omega), follow]
    rw [show n / 0x40 * 0x40 + n % 0x40 = n by omega, back]
  · have hl : lead? (0xE0 + n / 0x1000) =
        some (2, if n / 0x1000 = 0 then 0xA0 else 0x80, if n / 0x1000 = 13 then
          0x9F else 0xBF,
          n / 0x1000) := by
      rw [lead?, if_neg (by omega), if_neg (by omega), if_pos (by omega)]
      have hsub : 0xE0 + n / 0x1000 - 0xE0 = n / 0x1000 := by omega
      have hlow : (0xE0 + n / 0x1000 = 0xE0) = (n / 0x1000 = 0) := by
        simp only [eq_iff_iff]; omega
      have hhigh : (0xE0 + n / 0x1000 = 0xED) = (n / 0x1000 = 13) := by
        simp only [eq_iff_iff]; omega
      simp only [hsub, hlow, hhigh]
    rw [List.cons_append, piece_lead (by omega) (by omega) hl,
      List.cons_append, follow_continuation (by split_ifs
        <;> omega) (by split_ifs <;> omega), List.singleton_append,
      follow_continuation (by omega) (by omega), follow]
    rw [show (n / 0x1000 * 0x40 + n / 0x40 % 0x40) * 0x40 + n % 0x40 = n by
      omega, back]
  · have hl : lead? (0xF0 + n / 0x40000) =
        some (3, if n / 0x40000 = 0 then 0x90 else 0x80,
          if n / 0x40000 = 4 then 0x8F else 0xBF, n / 0x40000) := by
      rw [lead?, if_neg (by omega), if_neg (by omega), if_neg (by omega),
        if_pos (by omega)]
      have hsub : 0xF0 + n / 0x40000 - 0xF0 = n / 0x40000 := by omega
      have hlow : (0xF0 + n / 0x40000 = 0xF0) = (n / 0x40000 = 0) := by
        simp only [eq_iff_iff]; omega
      have hhigh : (0xF0 + n / 0x40000 = 0xF4) = (n / 0x40000 = 4) := by
        simp only [eq_iff_iff]; omega
      simp only [hsub, hlow, hhigh]
    rw [List.cons_append, piece_lead (by omega) (by omega) hl,
      List.cons_append, follow_continuation (by split_ifs
        <;> omega) (by split_ifs <;> omega), List.cons_append,
      follow_continuation (by omega) (by omega), List.singleton_append,
      follow_continuation (by omega) (by omega), follow]
    rw [show ((n / 0x40000 * 0x40 + n / 0x1000 % 0x40) * 0x40
      + n / 0x40 % 0x40) * 0x40 + n % 0x40
      = n by omega, back]

/-- The following bytes of a character are read the same with more bytes
after them. -/
theorem follow_append {c : Char} {n : Nat} (more : List UInt8) :
    ∀ (k : Nat) {lo hi value size : Nat} {rest : List UInt8},
      follow lo hi value size k rest = .char c n →
      n = size + k ∧ k ≤ rest.length
        ∧ follow lo hi value size k (rest ++ more) = .char c n
  | 0, _, _, _, _, _, h => by
      rw [follow] at h ⊢
      exact ⟨by injection h with _ hn; exact hn.symm, Nat.zero_le _, h⟩
  | k + 1, _, _, _, _, [], h => by
      rw [follow] at h
      cases h
  | k + 1, lo, hi, value, size, b :: rest, h => by
      rw [follow] at h
      split at h
      · next hb =>
          obtain ⟨hn, hk, hmore⟩ := follow_append more k h
          refine ⟨by omega, Nat.succ_le_succ hk, ?_⟩
          rw [List.cons_append, follow, if_pos hb]
          exact hmore
      · cases h

/-- A character is read the same with more bytes after it. -/
theorem piece_append {bytes : List UInt8} {c : Char} {n : Nat}
    (h : piece bytes = .char c n) (more : List UInt8) :
    0 < n ∧ n ≤ bytes.length ∧ piece (bytes ++ more) = .char c n := by
  cases bytes with
  | nil => cases h
  | cons b rest =>
      rw [piece] at h
      rw [List.cons_append, piece]
      split at h
      · next hb =>
          rw [if_pos hb]
          injection h with hc hn
          subst hc hn
          exact ⟨Nat.one_pos, Nat.succ_le_succ (Nat.zero_le _), rfl⟩
      · next hb =>
          rw [if_neg hb]
          rcases hl : lead? b.toNat with _ | ⟨k, lo, hi, value⟩
          · rw [hl] at h
            cases h
          · rw [hl] at h
            obtain ⟨hn, hk, hmore⟩ := follow_append more k h
            exact ⟨by omega, by rw [List.length_cons]; omega, hmore⟩

-- ================================================================ texts

theorem decodeFrom_encode :
    ∀ (cs : List Char) {fuel pos : Nat} {acc : List Char},
    cs.length < fuel → decodeFrom fuel pos acc (encode cs)
      = .ok (acc.reverse ++ cs)
  | [], fuel + 1, pos, acc, _ => by simp [decodeFrom, piece]
  | c :: cs, fuel + 1, pos, acc, h => by
      have hdrop :
          (encodePoint c.toNat ++ encode cs).drop c.utf8Size = encode cs := by
        rw [← encodePoint_length, List.drop_left]
      rw [encode_cons, decodeFrom, piece_encodePoint]
      dsimp only
      rw [hdrop, decodeFrom_encode cs (Nat.lt_of_succ_lt_succ h),
        List.reverse_cons, List.append_assoc, List.singleton_append]

/-- What is encoded is decoded again. -/
theorem decode?_encode (cs : List Char) : decode? (encode cs) = .ok cs := by
  have hlength : cs.length ≤ (encode cs).length := by
    rw [encode_length]
    induction cs with
    | nil => exact Nat.le_refl 0
    | cons c cs ih =>
        rw [List.length_cons, length_cons]
        have hc := c.utf8Size_pos
        omega
  exact decodeFrom_encode cs (Nat.lt_succ_of_le hlength)

/-- What has been read before is there in the end. -/
theorem decodeFrom_toOption :
    ∀ (fuel pos : Nat) (acc : List Char) (bytes : List UInt8),
    (decodeFrom fuel pos acc bytes).toOption
      = (decodeFrom fuel 0 [] bytes).toOption.map (acc.reverse ++ ·)
  | 0, pos, acc, bytes => rfl
  | fuel + 1, pos, acc, bytes => by
      rw [decodeFrom, decodeFrom]
      cases piece bytes with
      | done =>
          show some acc.reverse = some (acc.reverse ++ [])
          rw [List.append_nil]
      | bad size truncated => rfl
      | char c size =>
          dsimp only
          rw [decodeFrom_toOption fuel (pos + size),
            decodeFrom_toOption fuel (0 + size) [c], Option.map_map]
          congr 1
          funext cs
          simp

/-- A character of one byte is read before what follows. -/
theorem decode?_ascii {c : Char} (h : c.toNat < 0x80) (bytes : List UInt8) :
    (decode? (c.toUInt8 :: bytes)).toOption
      = (decode? bytes).toOption.map (c :: ·) := by
  have first : piece (c.toUInt8 :: bytes) = .char c 1 := by
    have read := piece_encodePoint c bytes
    rwa [encodePoint_ascii h, utf8Size_ascii h] at read
  rw [decode?, decodeFrom, first]
  dsimp only
  rw [decodeFrom_toOption]
  rfl

end PatternCheck.Text.Utf8
