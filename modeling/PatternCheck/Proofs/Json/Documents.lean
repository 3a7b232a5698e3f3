import PatternCheck.Proofs.Json.Loops

/-
Documents, read from their texts. A reader that may go down so many levels
gives the document that a text spells if it has no more levels, and
otherwise stops for that reason alone (`value_givesIf`, by induction on the
levels). Hence a whole text is read if and only if its document has at
most `greatestDepth` levels (`Value.ofBytes_of_spells`).
-/

namespace PatternCheck.Json

namespace Cursor

open Text.Utf8 (encode encode_cons_ascii encode_append encode_enclosed)

-- =============================================================== scalars

/-- Past the bytes of a word. -/
theorem word_append (bytes rest : List UInt8) :
    ∀ pos, word ⟨bytes ++ rest, pos⟩ bytes
      = .ok ⟨rest, pos + bytes.length⟩ := by
  induction bytes with
  | nil => intro pos; rfl
  | cons b bytes ih =>
      intro pos
      rw [List.cons_append, word]
      simp only [if_true, ih, List.length_cons]
      congr 2
      omega

/-- Past a word, which leaves a value. -/
theorem literal_gives {α : Type} (text : String) (a : α)
    (h : encode text.toList = text.toList.map (·.toUInt8)) (rest : List UInt8)
    (pos : Nat) :
    Gives ((literal ⟨encode text.toList ++ rest, pos⟩ text).map fun c =>
      (a, c)) a rest := by
  rw [literal, h, word_append]
  exact ⟨_, rfl⟩

/-- Blanks before a value do not count. -/
theorem scalarOr_blank (nested : Cursor → Reading Value) {ws : List Char}
    (h : Blank ws) (rest : List UInt8) (pos : Nat) :
    scalarOr nested ⟨encode ws ++ rest, pos⟩
      = scalarOr nested ⟨rest, pos + ws.length⟩ := by
  rw [scalarOr, scalarOr, blanks_encode h]

/-- A value with no blanks before it is what its first byte says. -/
theorem scalarOr_cons (nested : Cursor → Reading Value) {b : UInt8}
    (hb : isBlank b = false) (bs : List UInt8) (pos : Nat) :
    let c : Cursor := ⟨b :: bs, pos⟩
    scalarOr nested c =
      if b = 'n'.toUInt8 then (c.literal "null").map (Value.null, ·)
      else if b = 't'.toUInt8 then (c.literal "true").map (Value.bool true, ·)
      else if b = 'f'.toUInt8 then
        (c.literal "false").map (Value.bool false, ·)
      else if b = '-'.toUInt8 || isDigit b then
        c.number.map fun (n, c) => (.number n, c)
      else if b = '"'.toUInt8 then (c.advance 1).string.map fun (s, c) =>
        (.string s, c)
      else if b = '['.toUInt8 || b = '\x7b'.toUInt8 then nested c
      else c.ahead .valueExpected := by
  intro c
  rw [scalarOr, blanks_of_not_blank hb]

section Scalars

variable (nested : Cursor → Reading Value) {rest : List UInt8}

/-- A value that is a word. -/
theorem scalarOr_word {text : String} {v : Value} {b : UInt8} {bs : List UInt8}
    (hascii : encode text.toList = text.toList.map (·.toUInt8))
    (hhead : encode text.toList = b :: bs)
    (hword : ∀ bytes pos, scalarOr nested ⟨b :: bytes, pos⟩
      = (literal ⟨b :: bytes, pos⟩ text).map (v, ·)) (pos : Nat) :
    Gives (scalarOr nested ⟨encode text.toList ++ rest, pos⟩) v rest := by
  have hliteral := literal_gives text v hascii rest pos
  rw [hhead, List.cons_append] at hliteral ⊢
  rw [hword]
  exact hliteral

theorem scalarOr_null (pos : Nat) :
    Gives (scalarOr nested ⟨encode "null".toList ++ rest, pos⟩) .null
      rest := by
  refine scalarOr_word (b := 'n'.toUInt8) nested (by decide) rfl
    (fun bytes pos => ?_) pos
  rw [scalarOr_cons nested (by decide), if_pos rfl]

theorem scalarOr_true (pos : Nat) :
    Gives (scalarOr nested ⟨encode "true".toList ++ rest, pos⟩) (.bool true)
      rest := by
  refine scalarOr_word (b := 't'.toUInt8) nested (by decide) rfl
    (fun bytes pos => ?_) pos
  rw [scalarOr_cons nested (by decide), if_neg (by decide), if_pos rfl]

theorem scalarOr_false (pos : Nat) :
    Gives (scalarOr nested ⟨encode "false".toList ++ rest, pos⟩) (.bool false)
      rest := by
  refine scalarOr_word (b := 'f'.toUInt8) nested (by decide) rfl
    (fun bytes pos => ?_) pos
  rw [scalarOr_cons nested (by decide), if_neg (by decide), if_neg (by decide),
    if_pos rfl]

/-- A number begins with its sign or with a digit, and so with nothing that
another value begins with. -/
theorem numeral_head (m : Numeral) :
    ∃ b bs, encode m.text = b :: bs ∧ (b = '-'.toUInt8 ∨ isDigit b = true) ∧
      isBlank b = false ∧ b ≠ 'n'.toUInt8 ∧ b ≠ 't'.toUInt8 ∧
        b ≠ 'f'.toUInt8 := by
  rw [Numeral.text, encode_append, encode_append, encode_append]
  cases m.isNegative with
  | true =>
      rw [if_pos rfl, encode_cons_ascii (by decide)]
      refine ⟨_, _, rfl, .inl rfl, ?_⟩
      decide
  | false =>
      obtain ⟨b, bs, hb, hdigit⟩ := encode_digitChars m.whole_ne
      rw [hb, if_neg (by decide)]
      have other {x : UInt8} (hx : isDigit x = false) : b ≠ x :=
        ne_of_isDigit hdigit hx
      refine ⟨b, _, rfl, .inr hdigit, ?_, other (by decide), other (by decide),
        other (by decide)⟩
      have hspace : b ≠ ' '.toUInt8 := other (by decide)
      have hfeed : b ≠ '\n'.toUInt8 := other (by decide)
      have htab : b ≠ '\t'.toUInt8 := other (by decide)
      have hreturn : b ≠ '\r'.toUInt8 := other (by decide)
      simp [isBlank, hspace, hfeed, htab, hreturn]

theorem scalarOr_number {m : Numeral} {n : Number} (h : m.held? = some n)
    (hrest : Ends rest) (pos : Nat) :
    Gives (scalarOr nested ⟨encode m.text ++ rest, pos⟩) (.number n) rest := by
  have hn := number_gives h hrest pos
  obtain ⟨b, bs, hb, hhead, hblank, hnull, htrue, hfalse⟩ := numeral_head m
  have hhead' : (decide (b = '-'.toUInt8) || isDigit b) = true := by
    simpa using hhead
  rw [hb, List.cons_append] at hn ⊢
  rw [scalarOr_cons nested hblank, if_neg hnull, if_neg htrue, if_neg hfalse,
    if_pos hhead']
  exact hn.map _

theorem scalarOr_string {s : String} {cs : List Char} (h : SpellsString s cs)
    (pos : Nat) :
    Gives (scalarOr nested ⟨encode cs ++ rest, pos⟩) (.string s) rest := by
  obtain ⟨es, hes, hstring⟩ := string_encode h
  rw [hes, List.cons_append, scalarOr_cons nested (by decide),
    if_neg (by decide), if_neg (by decide), if_neg (by decide),
    if_neg (by decide), if_pos rfl]
  exact Gives.map ⟨_, hstring rest (pos + 1)⟩ _

/-- An opening bracket leads to what reads lists and objects. -/
theorem scalarOr_nested {b : UInt8} (hb : b = '['.toUInt8 ∨ b = '\x7b'.toUInt8)
    (bs : List UInt8) (pos : Nat) :
    scalarOr nested ⟨b :: bs, pos⟩ = nested ⟨b :: bs, pos⟩ := by
  rcases hb with rfl | rfl <;> rw [scalarOr_cons nested (by decide)] <;> rfl

end Scalars

-- ==================================================== lists and objects

/-- A text of a value begins with no blank and no closing bracket. -/
theorem spells_head {v : Value} {cs : List Char} (h : Spells v cs) :
    ∃ b bs, encode cs = b :: bs ∧ isBlank b = false ∧ b ≠ ']'.toUInt8 := by
  cases h with
  | null | true | false => exact ⟨_, _, rfl, by decide, by decide⟩
  | @number m n hm =>
      obtain ⟨b, bs, hb, hhead, hblank, -⟩ := numeral_head m
      refine ⟨b, bs, hb, hblank, ?_⟩
      rintro rfl
      revert hhead
      decide
  | string hs =>
      obtain ⟨es, hes, -⟩ := string_encode hs
      exact ⟨_, _, hes, by decide, by decide⟩
  | emptyArray | array =>
      rw [List.cons_append, encode_cons_ascii (by decide)]
      exact ⟨_, _, rfl, by decide, by decide⟩
  | emptyObject | object =>
      rw [List.cons_append, encode_cons_ascii (by decide)]
      exact ⟨_, _, rfl, by decide, by decide⟩

theorem colon_encode {a : List Char} (ha : Blank a) (rest : List UInt8)
    (pos : Nat) :
    colon ⟨encode a ++ ':'.toUInt8 :: rest, pos⟩
      = .ok ⟨rest, pos + a.length + 1⟩ := by
  have hblanks := blanks_encode ha (':'.toUInt8 :: rest) pos
  rw [blanks_of_not_blank (by decide)] at hblanks
  simp [colon, hblanks, at?, advance]

section Nested

/- A reader of values that gives those that have at most `d` levels. -/
variable {read : Cursor → Reading Value} {d : Nat}
  (hread : ∀ {v cs}, Spells v cs → ∀ {ws}, Blank ws → ∀ rest pos, Ends rest →
    GivesIf (v.depth ≤ d)
      (read ⟨encode ws ++ (encode cs ++ rest), pos⟩) v rest)

include hread

/-- An item of a list is put in front of those before. -/
theorem item_steps (v : Value) (cs : List Char) (h : Spells v cs) :
    Steps (fun acc c => (read c).map fun (v, c) => (v :: acc, c))
      (fun b => isBlank b = false ∧ b ≠ ']'.toUInt8) (fun _ => True)
        (v.depth ≤ d) (v :: ·) cs where
  opens := spells_head h
  reads acc rest pos _ hrest := (hread h .nil rest pos hrest).map (· :: acc)

/-- A member of an object is put in front of those before. -/
theorem member_steps (m : String × Value) (cs : List Char)
    (h : SpellsMember m cs) :
    Steps (member string fun key acc c => do
        let c ← c.colon
        (read c).map fun (v, c) => ((key, v) :: acc, c))
      (· = '"'.toUInt8) (fun _ => True) (m.2.depth ≤ d) (m :: ·) cs := by
  cases h with
  | @member key v ks a b cs hks ha hb hcs =>
      obtain ⟨es, hes, hkey⟩ := string_encode hks
      refine ⟨⟨'"'.toUInt8, es ++ encode a ++ encode (':' :: (b ++ cs)),
        ?_, rfl⟩, fun acc rest pos _ hrest => ?_⟩
      · rw [encode_append, encode_append, hes]
        rfl
      · have hcolon : ∀ cs, encode (':' :: cs) = ':'.toUInt8 :: encode cs :=
          encode_cons_ascii (by decide)
        have hvalue :=
          (hread hcs hb rest (pos + 1 + es.length + a.length + 1) hrest).map
            fun v => (key, v) :: acc
        rw [encode_append, encode_append, hcolon, hes, encode_append]
        simp only [member, advance, List.cons_append, List.append_assoc,
          List.drop_succ_cons, List.drop_zero, hkey, colon_encode ha, bind,
          Except.bind]
        exact hvalue

/-- A list is read from any of its texts if all its items are. -/
theorem nestedOf_array {vs : List Value} {cs : List Char}
    (h : Listed Spells vs cs) (rest : List UInt8) (pos : Nat) :
    GivesIf (∀ v ∈ vs, v.depth ≤ d)
      (nestedOf read ⟨encode ('[' :: cs ++ [']']) ++ rest, pos⟩)
      (.array vs) rest := by
  have hitems := (items_loop .attentive _).reads_all (item_steps hread) h
    (met_of_forall (fun _ _ => trivial) vs []) '['.toUInt8 rest (pos + 1)
  have harray := hitems.map fun acc => Value.array acc.reverse
  rw [List.reverse_reverse] at harray
  rw [encode_enclosed (by decide) (by decide)]
  exact harray

/-- An object is read from any of its texts if the values of all its members
are. -/
theorem nestedOf_object {ms : List (String × Value)} {cs : List Char}
    (h : Listed SpellsMember ms cs) (rest : List UInt8) (pos : Nat) :
    GivesIf (∀ m ∈ ms, m.2.depth ≤ d)
      (nestedOf read ⟨encode ('\x7b' :: cs ++ ['\x7d']) ++ rest, pos⟩)
        (.object ms) rest := by
  have hmembers := (members_loop .attentive _).reads_all (member_steps hread) h
    (met_of_forall (fun _ _ => trivial) ms []) '\x7b'.toUInt8 rest (pos + 1)
  have hobject := hmembers.map fun acc => Value.object acc.reverse
  rw [List.reverse_reverse] at hobject
  rw [encode_enclosed (by decide) (by decide)]
  exact hobject

end Nested

/-- A list without items. -/
theorem nestedOf_emptyArray (read : Cursor → Reading Value) {ws : List Char}
    (h : Blank ws) (rest : List UInt8) (pos : Nat) :
    Gives (nestedOf read ⟨encode ('[' :: ws ++ [']']) ++ rest, pos⟩)
      (.array []) rest := by
  rw [encode_enclosed (by decide) (by decide)]
  exact ((items_loop .attentive _).close h _ true [] rest (pos + 1)).map
    fun acc =>
    Value.array acc.reverse

/-- An object without members. -/
theorem nestedOf_emptyObject (read : Cursor → Reading Value) {ws : List Char}
    (h : Blank ws) (rest : List UInt8) (pos : Nat) :
    Gives (nestedOf read ⟨encode ('\x7b' :: ws ++ ['\x7d']) ++ rest, pos⟩)
      (.object []) rest := by
  rw [encode_enclosed (by decide) (by decide)]
  exact ((members_loop .attentive _).close h _ true [] rest (pos + 1)).map
    fun acc =>
    Value.object acc.reverse

-- ================================================================ values

/-- A value is read from any of its texts if lists and objects are. -/
theorem scalarOr_givesIf {nested : Cursor → Reading Value} {d : Nat}
    (hnested : ∀ {v cs}, Spells v cs → 0 < v.depth → ∀ rest pos,
      GivesIf (v.depth ≤ d) (nested ⟨encode cs ++ rest, pos⟩) v rest)
    {v : Value} {cs : List Char} (h : Spells v cs) {ws : List Char}
    (hws : Blank ws) (rest : List UInt8) (pos : Nat) (hrest : Ends rest) :
    GivesIf (v.depth ≤ d)
      (scalarOr nested ⟨encode ws ++ (encode cs ++ rest), pos⟩) v rest := by
  rw [scalarOr_blank nested hws]
  generalize pos + ws.length = pos
  by_cases hdepth : 0 < v.depth
  · have hbracket :
        ∃ b bs, encode cs = b :: bs
          ∧ (b = '['.toUInt8 ∨ b = '\x7b'.toUInt8) := by
      cases h with
      | null | true | false | number | string =>
          exact absurd hdepth (by simp [Value.depth])
      | emptyArray | array =>
          rw [List.cons_append, encode_cons_ascii (by decide)]
          exact ⟨_, _, rfl, .inl rfl⟩
      | emptyObject | object =>
          rw [List.cons_append, encode_cons_ascii (by decide)]
          exact ⟨_, _, rfl, .inr rfl⟩
    obtain ⟨b, bs, hcs, hb⟩ := hbracket
    have hgives := hnested h hdepth rest pos
    rw [hcs, List.cons_append] at hgives ⊢
    rw [scalarOr_nested nested hb]
    exact hgives
  · have hfits : v.depth ≤ d := by omega
    refine Gives.givesIf ?_ hfits
    cases h with
    | null => exact scalarOr_null nested pos
    | true => exact scalarOr_true nested pos
    | false => exact scalarOr_false nested pos
    | number hn => exact scalarOr_number nested hn hrest pos
    | string hs => exact scalarOr_string nested hs pos
    | emptyArray | array | emptyObject | object =>
        exact absurd hdepth (by simp [Value.depth])

/-- A value is read from any of its texts if it has no more levels than the
reader may go down; otherwise reading stops. -/
theorem value_givesIf : ∀ (d : Nat) {v : Value} {cs : List Char}, Spells v cs →
    ∀ {ws : List Char}, Blank ws → ∀ rest pos, Ends rest →
      GivesIf (v.depth ≤ d) (value d ⟨encode ws ++ (encode cs ++ rest), pos⟩) v
        rest := by
  intro d
  induction d with
  | zero =>
      intro v cs h ws hws rest pos hrest
      refine scalarOr_givesIf (fun {v cs} _ hdepth rest pos => ?_) h hws rest
        pos hrest
      refine ⟨fun hfits => absurd hfits (by omega), fun _ => ⟨_, rfl⟩⟩
  | succ d ih =>
      intro v cs h ws hws rest pos hrest
      refine scalarOr_givesIf (fun {v cs} h hdepth rest pos => ?_) h hws rest
        pos hrest
      cases h with
      | null | true | false | number | string =>
          exact absurd hdepth (by simp [Value.depth])
      | emptyArray hws =>
          refine (nestedOf_emptyArray _ hws rest pos).givesIf ?_
          simp [Value.depth, itemsDepth]
      | emptyObject hws =>
          refine (nestedOf_emptyObject _ hws rest pos).givesIf ?_
          simp [Value.depth, membersDepth]
      | array hvs =>
          refine (nestedOf_array ih hvs rest pos).congr ?_
          rw [Value.depth, Nat.add_le_add_iff_right, itemsDepth_le_iff]
      | object hms =>
          refine (nestedOf_object ih hms rest pos).congr ?_
          rw [Value.depth, Nat.add_le_add_iff_right, membersDepth_le_iff]

-- ============================================================ whole texts

theorem finish_encode {ws : List Char} (h : Blank ws) (pos : Nat) :
    finish ⟨encode ws, pos⟩ = .ok () := by
  have hblanks := blanks_encode h [] pos
  rw [List.append_nil] at hblanks
  rw [finish, hblanks]
  rfl

/-- The reader of values, at the beginning of a text. -/
theorem value_start {v : Value} {cs : List Char} (h : SpellsDocument v cs) :
    ∃ b, Blank b ∧
      GivesIf (v.depth ≤ greatestDepth)
        (value greatestDepth (start (encode cs))) v (encode b) := by
  cases h with
  | @around a t b ha ht hb =>
      refine ⟨b, hb, ?_⟩
      rw [start, encode_append, encode_append, List.append_assoc]
      exact value_givesIf greatestDepth ht ha (encode b) 0 (ends_blanks hb)

end Cursor

open Cursor in
/-- A text of a document with at most `greatestDepth` levels is read as that
document. -/
theorem Value.ofBytes_of_spells {v : Value} {cs : List Char}
    (h : SpellsDocument v cs) (hdepth : v.depth ≤ greatestDepth) :
    Value.ofBytes (Text.Utf8.encode cs) = .ok v := by
  obtain ⟨b, hb, hvalue⟩ := value_start h
  obtain ⟨pos, hread⟩ := hvalue.gives hdepth
  rw [Value.ofBytes, whole, hread]
  simp [bind, Except.bind, finish_encode hb, pure, Except.pure]

open Cursor in
/-- A text of a document with more levels is refused for that reason. -/
theorem Value.ofBytes_of_spells_deep {v : Value} {cs : List Char}
    (h : SpellsDocument v cs) (hdepth : greatestDepth < v.depth) :
    ∃ pos, Value.ofBytes (Text.Utf8.encode cs) = .error ⟨.tooDeep, pos⟩ := by
  obtain ⟨b, -, hvalue⟩ := value_start h
  obtain ⟨pos, hread⟩ := hvalue.stops (by omega)
  refine ⟨pos, ?_⟩
  rw [Value.ofBytes, whole, hread]
  rfl

end PatternCheck.Json
