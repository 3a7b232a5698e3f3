import PatternCheck.Http.Assets
import PatternCheck.Proofs.Decimal.Digits
import PatternCheck.Proofs.Text.Utf8

/-
Paths with escapes. A text can be written in a part of a path in many ways:
each character as it is, if it has no meaning of its own there, or by escapes
of its bytes, with digits of either case (`Written`). Whichever way is
chosen, reading the escapes gives the text back (`percentDecoded_written`);
and what is written has none of the characters that end a path or a part of
it (`Written.plain`).
-/

namespace PatternCheck.Http

open Text.Utf8 (encode encodePoint decode?)

-- =============================================================== writing

/-- The characters that have a meaning of their own in a path, or after
it. -/
def reserved : List Char := ['%', '/', '?', '#']

/-- Escapes of bytes: for each a percent sign and two digits. -/
inductive Escapes : List UInt8 → List Char → Prop where
  | nil : Escapes [] []
  | cons {byte : UInt8} {a b : Char} {bytes : List UInt8} {cs : List Char} :
    Decimal.digit? 16 a = some (byte.toNat / 16) →
    Decimal.digit? 16 b = some (byte.toNat % 16) →
    Escapes bytes cs → Escapes (byte :: bytes) ('%' :: a :: b :: cs)

/-- Ways to write a text in a part of a path. -/
inductive Written : List Char → List Char → Prop where
  | nil : Written [] []
  | bare {c : Char} {cs out : List Char} :
    c ∉ reserved → Written cs out → Written (c :: cs) (c :: out)
  | escaped {c : Char} {cs esc out : List Char} :
    Escapes (encodePoint c.toNat) esc → Written cs out →
      Written (c :: cs) (esc ++ out)

-- ================================================================ digits

variable {c : Char} {cs out : List Char} {bytes rest : List UInt8}

/-- Digits are single bytes. -/
theorem hexDigit_ascii {d : Nat} (h : Decimal.digit? 16 c = some d) :
    c.toNat < 0x80 := by
  unfold Decimal.digit? at h
  dsimp only at h
  split_ifs at h <;> omega

/-- Digits have no meaning of their own in a path. -/
theorem hexDigit_bare {d : Nat} (h : Decimal.digit? 16 c = some d) :
    c ∉ reserved := by
  intro mem
  have none : reserved.all (fun c => (Decimal.digit? 16 c).isNone) = true := by
    decide
  have apart := List.all_eq_true.1 none c mem
  rw [h] at apart
  cases apart

/-- Two digits are read as the byte that they are written for. -/
theorem hexPair?_digits {byte : UInt8} {a b : Char}
    (ha : Decimal.digit? 16 a = some (byte.toNat / 16))
    (hb : Decimal.digit? 16 b = some (byte.toNat % 16)) :
    hexPair? a.toUInt8 b.toUInt8 = some byte := by
  have whole : byte.toNat / 16 * 16 + byte.toNat % 16 = byte.toNat := by omega
  rw [hexPair?, Text.Utf8.toNat_toUInt8 (hexDigit_ascii ha),
    Text.Utf8.toNat_toUInt8 (hexDigit_ascii hb), Char.ofNat_toNat,
    Char.ofNat_toNat, ha, hb]
  show some (UInt8.ofNat (byte.toNat / 16 * 16 + byte.toNat % 16)) = some byte
  rw [whole, UInt8.ofNat_toNat]

-- =============================================================== reading

theorem percentDecoded_cons {byte : UInt8} (h : byte ≠ 0x25)
    (rest : List UInt8) :
    percentDecoded (byte :: rest) = byte :: percentDecoded rest := by
  rw [percentDecoded]
  exact fun _ _ _ same _ => h same

/-- Bytes without a percent sign among them stand for themselves. -/
theorem percentDecoded_bare (h : ∀ b ∈ bytes, b ≠ 0x25) (rest : List UInt8) :
    percentDecoded (bytes ++ rest) = bytes ++ percentDecoded rest := by
  induction bytes with
  | nil => rfl
  | cons b bytes ih =>
    rw [List.cons_append, percentDecoded_cons (h b (List.mem_cons_self ..)),
      ih fun b' hb' => h b' (List.mem_cons_of_mem _ hb'), List.cons_append]

/-- Only the percent sign has its byte. -/
theorem encodePoint_ne_percent (h : c ≠ '%') :
    ∀ b ∈ encodePoint c.toNat, b ≠ 0x25 := by
  intro b hb same
  rcases Text.Utf8.mem_encodePoint hb with small | large
  · rw [same] at small
    exact h (Char.toNat_inj.1 small.symm)
  · rw [same] at large
    exact absurd large (by decide)

/-- Escapes are read as their bytes, whatever comes after them. -/
theorem percentDecoded_escapes (h : Escapes bytes cs) (rest : List UInt8) :
    percentDecoded (encode cs ++ rest) = bytes ++ percentDecoded rest := by
  induction h with
  | nil => rfl
  | cons ha hb _ ih =>
    rw [Text.Utf8.encode_cons_ascii (by decide),
      Text.Utf8.encode_cons_ascii (hexDigit_ascii ha),
      Text.Utf8.encode_cons_ascii (hexDigit_ascii hb), List.cons_append,
      List.cons_append, List.cons_append]
    show percentDecoded (0x25 :: _ :: _ :: _) = _
    rw [percentDecoded, hexPair?_digits ha hb]
    dsimp only
    rw [ih, List.cons_append]

/-- What is written is read, whichever way it is written. -/
theorem percentDecoded_written (h : Written cs out) (rest : List UInt8) :
    percentDecoded (encode out ++ rest)
      = encode cs ++ percentDecoded rest := by
  induction h with
  | nil => rfl
  | @bare c _ _ plain _ ih =>
    have ne : c ≠ '%' := fun same => plain (same ▸ by decide)
    rw [Text.Utf8.encode_cons, List.append_assoc,
      percentDecoded_bare (encodePoint_ne_percent ne), ih,
      Text.Utf8.encode_cons, List.append_assoc]
  | escaped escapes _ ih =>
    rw [Text.Utf8.encode_append, List.append_assoc,
      percentDecoded_escapes escapes, ih, Text.Utf8.encode_cons,
      List.append_assoc]

-- ============================================================ characters

/-- An escape has nothing in it that ends a path, or a part of one. -/
theorem Escapes.plain (h : Escapes bytes cs) :
    ∀ c ∈ cs, c = '%' ∨ c ∉ reserved := by
  induction h with
  | nil => exact fun _ hc => (List.not_mem_nil hc).elim
  | cons ha hb _ ih =>
    intro c hc
    rcases List.mem_cons.1 hc with rfl | hc
    · exact .inl rfl
    rcases List.mem_cons.1 hc with rfl | hc
    · exact .inr (hexDigit_bare ha)
    rcases List.mem_cons.1 hc with rfl | hc
    · exact .inr (hexDigit_bare hb)
    exact ih c hc

/-- Nor has a text that is written, in whatever way. -/
theorem Written.plain (h : Written cs out) :
    ∀ c ∈ out, c = '%' ∨ c ∉ reserved := by
  induction h with
  | nil => exact fun _ hc => (List.not_mem_nil hc).elim
  | bare bare _ ih =>
    intro c hc
    rcases List.mem_cons.1 hc with rfl | hc
    · exact .inr bare
    · exact ih c hc
  | escaped escapes _ ih =>
    intro c hc
    rcases List.mem_append.1 hc with hc | hc
    · exact escapes.plain c hc
    · exact ih c hc

theorem Written.not_slash (h : Written cs out) : '/' ∉ out := fun mem =>
  (h.plain _ mem).elim (by decide) (absurd (by decide))

/-- Where something is to be written, something is written. -/
theorem Written.ne_nil (h : Written cs out) (some : cs ≠ []) : out ≠ [] := by
  cases h with
  | nil => exact absurd rfl some
  | bare => exact List.cons_ne_nil _ _
  | @escaped c _ esc _ escapes _ =>
    intro empty
    obtain ⟨rfl, -⟩ := List.append_eq_nil_iff.1 empty
    obtain ⟨b, bs, bytes, -⟩ := Text.Utf8.encodePoint_head c
    rw [bytes] at escapes
    cases escapes

-- ================================================================ one way

/-- The escape of a byte. -/
def escape (byte : UInt8) : List Char :=
  ['%', Nat.digitChar (byte.toNat / 16), Nat.digitChar (byte.toNat % 16)]

/-- A text with escapes for all characters but letters, digits and a few
marks. -/
def percentEncoded (cs : List Char) : List Char :=
  cs.flatMap fun c =>
    if c.isAlphanum || c ∈ ['-', '.', '_', '~'] then [c]
    else (encodePoint c.toNat).flatMap escape

/-- Each byte can be escaped. -/
theorem escapes_escape (bytes : List UInt8) :
    Escapes bytes (bytes.flatMap escape) := by
  induction bytes with
  | nil => exact .nil
  | cons byte bytes ih =>
    have small : byte.toNat < 256 := byte.toNat_lt
    exact .cons (Decimal.digit?_digitChar (by omega) (by omega))
      (Decimal.digit?_digitChar (by omega) (by omega)) ih

/-- One way to write a text is to escape all that is not a letter or a
digit. -/
theorem written_percentEncoded (cs : List Char) :
    Written cs (percentEncoded cs) := by
  induction cs with
  | nil => exact .nil
  | cons c cs ih =>
    rw [percentEncoded, List.flatMap_cons]
    split
    · next plain =>
      refine .bare (fun mem => ?_) ih
      have other :
          reserved.all (fun c => !(c.isAlphanum || c ∈ ['-', '.', '_', '~']))
            = true := by
        decide
      have other := List.all_eq_true.1 other c mem
      rw [plain] at other
      cases other
    · exact .escaped (escapes_escape _) ih

end PatternCheck.Http
