import PatternCheck.Json.Writer
import PatternCheck.Proofs.Json.Grammar

/-
What is written of a document is a text of it, by the grammar. Characters
and strings are so in any case. A number is so if the writer spells it,
which is for whoever writes numbers to say (`Number.IsSpelled`); all the
rest is put together from these as the document is. None of it is a
control character, so that a document takes one line (`chars_printable`).
-/

namespace PatternCheck.Json

-- ============================================================== strings

/-- A digit of an escape is written with a small letter. -/
theorem hexDigit_digitChar {n : Nat} (h : n < 16) :
    HexDigit n (Nat.digitChar n) := by
  by_cases hn : n < 10
  · exact .decimal hn (Nat.toNat_digitChar_of_lt_ten hn)
  · have small : ∀ k < 6, (Nat.digitChar (k + 10)).toNat = 'a'.toNat + k := by
      decide
    obtain ⟨k, rfl⟩ : ∃ k, n = k + 10 := ⟨n - 10, by omega⟩
    exact .small (by omega) (small k (by omega))

/-- A number of two digits is filled up with zeros. -/
theorem hexFour_low {n : Nat} (h : n < 0x100) : HexFour n
    [Nat.digitChar 0, Nat.digitChar 0, Nat.digitChar (n / 16),
      Nat.digitChar (n % 16)] := by
  have hvalue : n = ((0 * 16 + 0) * 16 + n / 16) * 16 + n % 16 := by omega
  have hfour := HexFour.digits (hexDigit_digitChar (n := 0) (by decide))
    (hexDigit_digitChar (n := 0) (by decide))
    (hexDigit_digitChar (n := n / 16) (by omega))
    (hexDigit_digitChar (n := n % 16) (by omega))
  rwa [← hvalue] at hfour

/-- A control character is written by its number. -/
theorem unicodeEscape_spells {c : Char} (h : c.toNat < 0x20) :
    SpellsChar c (unicodeEscape c) := by
  have digits :
      ∀ n < 0x20, List.replicate (4 - (Nat.toDigits 16 n).length) '0'
        ++ Nat.toDigits 16 n
        = [Nat.digitChar 0, Nat.digitChar 0, Nat.digitChar (n / 16),
          Nat.digitChar (n % 16)] := by
    decide
  have htext :
      unicodeEscape c = '\\' :: 'u' :: [Nat.digitChar 0, Nat.digitChar 0,
        Nat.digitChar (c.toNat / 16), Nat.digitChar (c.toNat % 16)] :=
    congrArg (fun ds => '\\' :: 'u' :: ds) (digits c.toNat h)
  rw [htext]
  exact .numbered (hexFour_low (by omega))

/-- A character that has a letter is written by it, and any other one in
some other way. -/
theorem lettered_or {c x letter : Char} {cs : List Char}
    (hx : (letter, x) ∈ letteredEscapes) (h : c ≠ x → SpellsChar c cs) :
    SpellsChar c (if c = x then ['\\', letter] else cs) := by
  by_cases hc : c = x
  · rw [if_pos hc, hc]
    exact .lettered hx
  · rw [if_neg hc]
    exact h hc

/-- A character is written as itself, by a letter or by its number, and is
spelled in each of these ways. -/
theorem escapedChar_spells (c : Char) : SpellsChar c (escapedChar c) := by
  unfold escapedChar
  refine lettered_or (by decide) fun hquote =>
    lettered_or (by decide) fun hbackslash => ?_
  refine lettered_or (by decide) fun _ => lettered_or (by decide) fun _ => ?_
  refine lettered_or (by decide) fun _ => lettered_or (by decide) fun _ => ?_
  refine lettered_or (by decide) fun _ => ?_
  by_cases hcontrol : c.toNat < 0x20
  · rw [if_pos hcontrol]
    exact unicodeEscape_spells hcontrol
  · rw [if_neg hcontrol]
    exact .itself hquote hbackslash (by omega)

/-- A text is spelled between quotation marks. -/
theorem stringChars_spells (s : String) : SpellsString s (stringChars s) := by
  refine .quoted ?_
  induction s.toList with
  | nil => exact .nil
  | cons c cs ih => exact .cons (escapedChar_spells c) ih

-- ============================================================ documents

/-- Whether what is written of a number is a text of it. -/
def Number.IsSpelled (n : Number) : Prop :=
  ∃ m : Numeral, m.held? = some n ∧ m.text = n.render.toList

mutual

/-- The numbers in a document. -/
def Value.numbers : Value → List Number
  | .number n => [n]
  | .array items => itemsNumbers items
  | .object members => membersNumbers members
  | _ => []

/-- The numbers in the items of a list. -/
def itemsNumbers : List Value → List Number
  | [] => []
  | v :: rest => v.numbers ++ itemsNumbers rest

/-- The numbers in the members of an object. -/
def membersNumbers : List (String × Value) → List Number
  | [] => []
  | (_, v) :: rest => v.numbers ++ membersNumbers rest

end

/-- All numbers of the document are written as texts of them. -/
def Value.Spelled (v : Value) : Prop := ∀ n ∈ v.numbers, n.IsSpelled

/-- The numbers in an object are those in its members. -/
theorem membersNumbers_spelled {members : List (String × Value)}
    (h : ∀ m ∈ members, m.2.Spelled) :
    ∀ n ∈ membersNumbers members, n.IsSpelled := by
  induction members with
  | nil => exact fun _ hn => absurd hn List.not_mem_nil
  | cons m rest ih =>
      obtain ⟨hm, hrest⟩ := List.forall_mem_cons.1 h
      exact List.forall_mem_append.2 ⟨hm, ih hrest⟩

section Listed

variable {α : Type} {P : α → List Char → Prop} {x : α} {t : List Char}

/-- One thing without blanks around it. -/
theorem Listed.alone (hx : P x t) : Listed P [x] t := by
  have := Listed.one .nil hx .nil
  rwa [List.nil_append, List.append_nil] at this

/-- One thing without blanks around it, before others. -/
theorem Listed.before {xs : List α} {ts : List Char} (hx : P x t)
    (hxs : Listed P xs ts) : Listed P (x :: xs) (t ++ ',' :: ts) := by
  have := Listed.more .nil hx .nil hxs
  rwa [List.nil_append, List.append_nil] at this

end Listed

/-- A member is its key, a colon and its value. -/
theorem member_spells (key : String) {v : Value} {cs : List Char}
    (h : Spells v cs) :
    SpellsMember (key, v) (stringChars key ++ ':' :: cs) := by
  have := SpellsMember.member (stringChars_spells key) .nil .nil h
  rwa [List.append_nil, List.nil_append] at this

mutual

/-- What is written of a document is a text of it. -/
theorem chars_spells :
    ∀ v : Value, (∀ n ∈ v.numbers, n.IsSpelled) → Spells v v.chars
  | .null, _ => .null
  | .bool true, _ => .true
  | .bool false, _ => .false
  | .number n, h => by
      obtain ⟨m, hm, htext⟩ := h n (by simp [Value.numbers])
      have hnumber := Spells.number hm
      rw [htext] at hnumber
      exact hnumber
  | .string s, _ => .string (stringChars_spells s)
  | .array [], _ => .emptyArray .nil
  | .array (v :: rest), h =>
      .array (itemsChars_listed (v :: rest) h (List.cons_ne_nil v rest))
  | .object [], _ => .emptyObject .nil
  | .object (m :: rest), h =>
      .object (membersChars_listed (m :: rest) h (List.cons_ne_nil m rest))

/-- Items are listed with commas between them, and no blanks. -/
theorem itemsChars_listed :
    ∀ items : List Value, (∀ n ∈ itemsNumbers items, n.IsSpelled) →
    items ≠ [] → Listed Spells items (commaSeparated (itemsChars items))
  | [], _, hne => absurd rfl hne
  | [v], h, _ =>
      .alone (chars_spells v fun n hn => h n (List.mem_append_left _ hn))
  | v :: w :: rest, h, _ =>
      .before (chars_spells v fun n hn => h n (List.mem_append_left _ hn))
        (itemsChars_listed (w :: rest)
          (fun n hn => h n (List.mem_append_right _ hn))
          (List.cons_ne_nil w rest))

/-- So are members. -/
theorem membersChars_listed : ∀ members : List (String × Value),
    (∀ n ∈ membersNumbers members, n.IsSpelled) →
    members ≠ [] →
      Listed SpellsMember members (commaSeparated (membersChars members))
  | [], _, hne => absurd rfl hne
  | [(key, v)], h, _ =>
      .alone (member_spells key (chars_spells v fun n hn =>
        h n (List.mem_append_left _ hn)))
  | (key, v) :: m :: rest, h, _ =>
      .before (member_spells key (chars_spells v fun n hn =>
        h n (List.mem_append_left _ hn)))
        (membersChars_listed (m :: rest)
          (fun n hn => h n (List.mem_append_right _ hn))
          (List.cons_ne_nil m rest))

end

-- ============================================================== one line

/-- No control characters. -/
def Printable (cs : List Char) : Prop := ∀ c ∈ cs, 0x20 ≤ c.toNat

instance (cs : List Char) : Decidable (Printable cs) := List.decidableBAll _ cs

section Printable

variable {c : Char} {a b cs : List Char}

theorem printable_nil : Printable [] := fun _ hc => absurd hc List.not_mem_nil

theorem Printable.cons (hc : 0x20 ≤ c.toNat) (h : Printable cs) :
    Printable (c :: cs) :=
  List.forall_mem_cons.2 ⟨hc, h⟩

theorem Printable.append (ha : Printable a) (hb : Printable b) :
    Printable (a ++ b) :=
  List.forall_mem_append.2 ⟨ha, hb⟩

/-- A line feed is a control character. -/
theorem Printable.noLine (h : Printable cs) : '\n' ∉ cs :=
  fun hn => absurd (h _ hn) (by decide)

end Printable

/-- The escape of a control character has none in it. -/
theorem unicodeEscape_printable {c : Char} (h : c.toNat < 0x20) :
    Printable (unicodeEscape c) := by
  have digits : ∀ n < 0x20,
      (List.replicate (4 - (Nat.toDigits 16 n).length) '0'
        ++ Nat.toDigits 16 n).all
        (0x20 ≤ ·.toNat) = true := by
    decide
  refine .cons (by decide) (.cons (by decide) fun x hx => ?_)
  exact of_decide_eq_true (List.all_eq_true.1 (digits c.toNat h) x hx)

theorem printable_lettered_or {c x letter : Char} {cs : List Char}
    (hl : 0x20 ≤ letter.toNat) (h : Printable cs) :
    Printable (if c = x then ['\\', letter] else cs) := by
  split
  · exact .cons (by decide) (.cons hl printable_nil)
  · exact h

/-- No character is written with a control character. -/
theorem escapedChar_printable (c : Char) : Printable (escapedChar c) := by
  unfold escapedChar
  refine printable_lettered_or (by decide)
    (printable_lettered_or (by decide) ?_)
  refine printable_lettered_or (by decide)
    (printable_lettered_or (by decide) ?_)
  refine printable_lettered_or (by decide)
    (printable_lettered_or (by decide) ?_)
  refine printable_lettered_or (by decide) ?_
  split
  · next hcontrol => exact unicodeEscape_printable hcontrol
  · next hcontrol => exact .cons (Nat.le_of_not_lt hcontrol) printable_nil

theorem stringChars_printable (s : String) : Printable (stringChars s) := by
  refine .append (.cons (by decide) fun x hx => ?_) (by decide)
  obtain ⟨c, -, hx⟩ := List.mem_flatMap.1 hx
  exact escapedChar_printable c x hx

theorem digitChars_printable (ds : List (Fin 10)) :
    Printable (digitChars ds) := by
  intro x hx
  obtain ⟨d, -, rfl⟩ := List.mem_map.1 hx
  rw [Nat.toNat_digitChar_of_lt_ten d.isLt]
  exact Nat.le_trans (by decide) (Nat.le_add_right _ _)

theorem Power.text_printable (p : Power) : Printable p.text := by
  have hletter : 0x20 ≤ p.letter.toNat := by
    rcases p.letter_eq with h | h <;> rw [h] <;> decide
  have hsign : Printable (signChars p.sign) := by
    rcases p.sign with _ | _ | _ <;> decide
  exact .cons hletter (hsign.append (digitChars_printable _))

/-- A number is written with digits, signs, a point and a letter. -/
theorem Numeral.text_printable (m : Numeral) : Printable m.text := by
  have hsign : Printable (if m.isNegative then ['-'] else []) := by
    split <;> decide
  have hfraction : Printable (Numeral.fractionText m.fraction) := by
    cases m.fraction with
    | nil => exact printable_nil
    | cons d ds => exact .cons (by decide) (digitChars_printable (d :: ds))
  have hpower : Printable (Numeral.powerText m.power) := by
    cases m.power with
    | none => exact printable_nil
    | some p => exact p.text_printable
  exact ((hsign.append (digitChars_printable _)).append hfraction).append
    hpower

/-- So is one that is only known to be spelled. -/
theorem Number.IsSpelled.printable {n : Number} (h : n.IsSpelled) :
    Printable n.render.toList := by
  obtain ⟨m, -, htext⟩ := h
  rw [← htext]
  exact m.text_printable

/-- What holds of a comma and of the characters of some texts holds of all
characters of the texts with commas between them. -/
theorem forall_mem_commaSeparated {P : Char → Prop} {texts : List (List Char)}
    (comma : P ',') (h : ∀ cs ∈ texts, ∀ c ∈ cs, P c) :
    ∀ c ∈ commaSeparated texts, P c := by
  induction texts with
  | nil => exact List.forall_mem_nil P
  | cons a rest ih =>
      obtain ⟨ha, hrest⟩ := List.forall_mem_cons.1 h
      cases rest with
      | nil => exact ha
      | cons b rest =>
          rw [commaSeparated, List.forall_mem_append, List.forall_mem_cons]
          · exact ⟨ha, comma, ih hrest⟩
          · simp

theorem commaSeparated_printable {texts : List (List Char)}
    (h : ∀ cs ∈ texts, Printable cs) :
    Printable (commaSeparated texts) := forall_mem_commaSeparated (by decide) h

mutual

/-- What is written of a document takes one line. -/
theorem chars_printable : ∀ v : Value, v.Spelled → Printable v.chars
  | .null, _ => by decide
  | .bool true, _ => by decide
  | .bool false, _ => by decide
  | .number n, h => (h n (by simp [Value.numbers])).printable
  | .string s, _ => stringChars_printable s
  | .array items, h =>
      .append
        (.cons (by decide)
          (commaSeparated_printable (itemsChars_printable items h)))
        (by decide)
  | .object members, h =>
      .append
        (.cons (by decide)
          (commaSeparated_printable (membersChars_printable members h)))
        (by decide)

/-- Each item of a list is printable, and so are the items of an item. -/
theorem itemsChars_printable :
    ∀ items : List Value, (∀ n ∈ itemsNumbers items, n.IsSpelled) →
    ∀ cs ∈ itemsChars items, Printable cs
  | [], _ => fun _ hcs => absurd hcs List.not_mem_nil
  | v :: rest, h => List.forall_mem_cons.2
      ⟨chars_printable v fun n hn => h n (List.mem_append_left _ hn),
        itemsChars_printable rest fun n hn => h n (List.mem_append_right _ hn)⟩

theorem membersChars_printable : ∀ members : List (String × Value),
    (∀ n ∈ membersNumbers members, n.IsSpelled) →
      ∀ cs ∈ membersChars members, Printable cs
  | [], _ => fun _ hcs => absurd hcs List.not_mem_nil
  | (key, v) :: rest, h => List.forall_mem_cons.2
      ⟨(stringChars_printable key).append (.cons (by decide)
          (chars_printable v fun n hn => h n (List.mem_append_left _ hn))),
        membersChars_printable rest fun n hn =>
          h n (List.mem_append_right _ hn)⟩

end

end PatternCheck.Json
