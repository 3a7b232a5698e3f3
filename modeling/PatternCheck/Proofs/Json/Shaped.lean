import PatternCheck.Proofs.Json.Documents
import PatternCheck.Proofs.Json.Writing
import PatternCheck.Proofs.Shape.Fits

/-
Documents of a shape, read from their texts. A reader that looks for a
shape gives a document that fits it back as it is, from any text of it
(`shaped_gives`, by the parts of the shape). A record is read by the loop
over members; each of them is read only because no member before it has
the same key, and that is what the loop carries along (`met_of_nodup`).
-/

namespace PatternCheck.Json.Cursor

open Text.Utf8 (encode encode_cons_ascii encode_append encode_enclosed)

-- =============================================================== blanks

/-- Blanks before a value are passed over, up to the first byte of it. -/
theorem blanks_spells {v : Value} {cs : List Char} (h : Spells v cs)
    {ws : List Char} (hws : Blank ws) (rest : List UInt8) (pos : Nat) :
    ∃ b bs, encode cs = b :: bs ∧
      blanks ⟨encode ws ++ (encode cs ++ rest), pos⟩
        = ⟨b :: (bs ++ rest), pos + ws.length⟩ := by
  obtain ⟨b, bs, hb, hblank, -⟩ := spells_head h
  refine ⟨b, bs, hb, ?_⟩
  rw [blanks_encode hws, hb, List.cons_append, blanks_of_not_blank hblank]

/-- Only null begins like null. -/
theorem spells_head_ne {v : Value} {cs : List Char} (h : Spells v cs)
    (hv : v ≠ .null) {b : UInt8} {bs : List UInt8} (hb : encode cs = b :: bs) :
    b ≠ 'n'.toUInt8 := by
  cases h with
  | null => exact absurd rfl hv
  | true | false =>
      cases hb
      decide
  | @number m n hm =>
      obtain ⟨b', bs', hb', -, -, hnull, -⟩ := numeral_head m
      rw [hb'] at hb
      cases hb
      exact hnull
  | string hs =>
      obtain ⟨es, hes, -⟩ := string_encode hs
      rw [hes] at hb
      cases hb
      decide
  | emptyArray | array | emptyObject | object =>
      rw [List.cons_append, encode_cons_ascii (by decide)] at hb
      cases hb
      decide

-- =============================================================== strings

/-- A string is judged by its text. -/
theorem stringThat_gives {s : String} {cs : List Char} (h : SpellsString s cs)
    {ws : List Char} (hws : Blank ws) (expected : String)
    {judge : String → Except Mismatch Value} {v : Value}
    (hjudge : judge s = .ok v) (rest : List UInt8) (pos : Nat) :
    Gives (stringThat expected judge ⟨encode ws ++ (encode cs ++ rest), pos⟩) v
      rest := by
  obtain ⟨es, hes, hstring⟩ := string_encode h
  have hblanks : blanks ⟨encode ws ++ (encode cs ++ rest), pos⟩
      = ⟨'"'.toUInt8 :: (es ++ rest), pos + ws.length⟩ := by
    rw [blanks_encode hws, hes, List.cons_append,
      blanks_of_not_blank (by decide)]
  refine ⟨pos + ws.length + 1 + es.length, ?_⟩
  simp only [stringThat, hblanks, at?, List.head?_cons, beq_self_eq_true,
    if_true, advance, List.drop_succ_cons, List.drop_zero, hstring, bind,
    Except.bind, judged, hjudge]

/-- A text is read as one of several that it is among. -/
theorem choiceOf_gives {s : String} {cs : List Char} (h : SpellsString s cs)
    {ws : List Char} (hws : Blank ws) {names : List String} (hs : s ∈ names)
    (rest : List UInt8) (pos : Nat) :
    Gives (choiceOf names ⟨encode ws ++ (encode cs ++ rest), pos⟩) (.string s)
      rest := by
  have hjudge : Shape.choice? names s = .ok (.string s) := if_pos hs
  obtain ⟨es, hes, -⟩ := string_encode h
  have hgives :=
    stringThat_gives h Blank.nil "variant identifier" hjudge rest
      (pos + ws.length)
  have hblanks : blanks ⟨encode ws ++ (encode cs ++ rest), pos⟩
      = ⟨encode cs ++ rest, pos + ws.length⟩ := by
    rw [blanks_encode hws, hes, List.cons_append,
      blanks_of_not_blank (by decide)]
  rw [Text.Utf8.encode_nil, List.nil_append, hes] at hgives
  rw [choiceOf, hblanks, hes]
  exact hgives

-- =============================================================== scalars

theorem shaped_boolean (b : Bool) {cs : List Char} (h : Spells (.bool b) cs)
    {ws : List Char} (hws : Blank ws) (rest : List UInt8) (pos : Nat) :
    Gives (shaped .boolean ⟨encode ws ++ (encode cs ++ rest), pos⟩) (.bool b)
      rest := by
  obtain ⟨x, bs, hx, hblanks⟩ := blanks_spells h hws rest pos
  rw [shaped, hblanks, ← List.cons_append, ← hx]
  cases h with
  | true => exact literal_gives "true" (Value.bool true) (by decide) rest _
  | false => exact literal_gives "false" (Value.bool false) (by decide) rest _

/-- A number is read where it is below the bound. -/
theorem shaped_natural {name : String} {bound n : Nat} (hn : n < bound)
    {cs : List Char} (h : Spells (.number (.natural n)) cs) {ws : List Char}
    (hws : Blank ws) (rest : List UInt8) (pos : Nat) (hrest : Ends rest) :
    Gives (shaped (.natural name bound)
        ⟨encode ws ++ (encode cs ++ rest), pos⟩)
      (.number (.natural n)) rest := by
  obtain ⟨x, bs, hx, hblanks⟩ := blanks_spells h hws rest pos
  cases h with | @number m n' hm =>
  obtain ⟨pos', hnumber⟩ := number_gives hm hrest (pos + ws.length)
  obtain ⟨b, bs', hb, hhead, -⟩ := numeral_head m
  obtain ⟨rfl, rfl⟩ := List.cons.inj (hx.symm.trans hb)
  have hfirst : ((x :: (bs ++ rest)).head? == some '-'.toUInt8
      || (x :: (bs ++ rest)).head?.any isDigit) = true := by
    simpa using hhead
  rw [hx, List.cons_append] at hnumber
  refine ⟨pos', ?_⟩
  rw [shaped, hblanks]
  simp only [at?, hfirst, if_true, hnumber, bind, Except.bind, judged,
    Shape.natural?, if_pos hn]

/-- A thing that may be missing is read as null where it is. -/
theorem shaped_null {shape : Shape} {cs : List Char} (h : Spells .null cs)
    {ws : List Char} (hws : Blank ws) (rest : List UInt8) (pos : Nat) :
    Gives (shaped (.optional shape) ⟨encode ws ++ (encode cs ++ rest), pos⟩)
      .null rest := by
  obtain ⟨x, bs, hx, hblanks⟩ := blanks_spells h hws rest pos
  rw [shaped, hblanks, ← List.cons_append, ← hx]
  cases h with
  | null => exact literal_gives "null" Value.null (by decide) rest _

/-- What is not null is read as if it could not be missing. -/
theorem shaped_present {shape : Shape} {v : Value} {cs : List Char}
    (h : Spells v cs) (hv : v ≠ .null) {ws : List Char} (hws : Blank ws)
    (rest : List UInt8) (pos : Nat) :
    shaped (.optional shape) ⟨encode ws ++ (encode cs ++ rest), pos⟩
      = shaped shape ⟨encode ws ++ (encode cs ++ rest), pos⟩ := by
  obtain ⟨x, bs, hx, hblanks⟩ := blanks_spells h hws rest pos
  have hne : x ≠ 'n'.toUInt8 := spells_head_ne h hv hx
  rw [shaped, hblanks, if_neg (by simp [at?, hne])]

-- =============================================================== records

/-- Members with different keys are met with no other one of their key. -/
theorem met_of_nodup : ∀ (members seen : List (String × Value)),
    (seen.map (·.1) ++ members.map (·.1)).Nodup →
      Met (fun m (seen : Seen) => seen.any (·.1 == m.1) = false)
        (fun m seen => m :: seen) members seen
  | [], _, _ => trivial
  | m :: members, seen, h => by
      refine ⟨?_, met_of_nodup members (m :: seen) ?_⟩
      · refine List.any_eq_false.2 fun x hx hkey => ?_
        obtain ⟨-, -, hne⟩ := List.nodup_append.1 h
        exact hne _ (List.mem_map_of_mem hx) _ List.mem_cons_self
          (by simpa using hkey)
      · exact (List.perm_middle.nodup_iff).1 h

theorem listed_and {α : Type} {P : α → List Char → Prop} {Q : α → Prop}
    {xs : List α} {cs : List Char} (h : Listed P xs cs) (hQ : ∀ x ∈ xs, Q x) :
    Listed (fun x t => Q x ∧ P x t) xs cs := by
  induction h with
  | one ha hx hb => exact .one ha ⟨hQ _ List.mem_cons_self, hx⟩ hb
  | more ha hx hb _ ih =>
      obtain ⟨hQx, hQ⟩ := List.forall_mem_cons.1 hQ
      exact .more ha ⟨hQx, hx⟩ hb (ih hQ)

/-- The step of the loop over the members of a record. -/
def recordStep (fields : Fields) : Step Seen :=
  member string fun key seen c =>
    match memberNamed key seen fields c with
    | some reading => reading
    | none => do
      let c ← (← c.colon).skimValue
      return (seen, c)

section Records

/- Members that a record has are read. -/
variable {fields : Fields}
  (hread : ∀ {key v cs}, MemberFits False fields (key, v) → Spells v cs →
    ∀ {a b}, Blank a → Blank b →
      ∀ (seen : Seen), seen.any (·.1 == key) = false → ∀ rest pos, Ends rest →
      ∃ reading, memberNamed key seen fields
          ⟨encode a ++ ':'.toUInt8 :: (encode b ++ (encode cs ++ rest)),
            pos⟩ = some reading
        ∧ Gives reading ((key, v) :: seen) rest)

include hread

/-- A member that is not there yet is read by its shape. -/
theorem recordStep_steps (m : String × Value) (cs : List Char)
    (h : MemberFits False fields m ∧ SpellsMember m cs) :
    Steps (recordStep fields) (· = '"'.toUInt8)
      (fun seen => seen.any (·.1 == m.1) = false) True (m :: ·) cs := by
  obtain ⟨hfits, hspells⟩ := h
  cases hspells with
  | @member key v ks a b cs hks ha hb hcs =>
      obtain ⟨es, hes, hkey⟩ := string_encode hks
      have hcolon : ∀ cs, encode (':' :: cs) = ':'.toUInt8 :: encode cs :=
        encode_cons_ascii (by decide)
      refine ⟨⟨'"'.toUInt8, es ++ encode a ++ encode (':' :: (b ++ cs)),
        ?_, rfl⟩, fun seen rest pos hseen hrest => Gives.givesIf ?_ trivial⟩
      · rw [encode_append, encode_append, hes]
        rfl
      · obtain ⟨reading, hnamed, hgives⟩ :=
          hread hfits hcs ha hb seen hseen rest (pos + 1 + es.length) hrest
        rw [encode_append, encode_append, hcolon, hes, encode_append]
        simp only [recordStep, member, advance, List.cons_append,
          List.append_assoc, List.drop_succ_cons, List.drop_zero, hkey, bind,
          Except.bind, hnamed]
        exact hgives

/-- The members of a record, up to its end. -/
theorem members_gives {members : List (String × Value)} {cs : List Char}
    (hnodup : (members.map (·.1)).Nodup)
    (hfits : ∀ m ∈ members, MemberFits False fields m)
    (h : Spells (.object members) cs) (rest : List UInt8) (pos : Nat) :
    ∃ bytes, encode cs ++ rest = '\x7b'.toUInt8 :: bytes ∧
      Gives (Cursor.members .attentive (recordStep fields)
        ('\x7b'.toUInt8 :: bytes).length
        true [] ⟨bytes, pos⟩) members.reverse rest := by
  cases h with
  | @emptyObject ws hws =>
      exact ⟨_, encode_enclosed (by decide) (by decide) ws rest,
        (members_loop .attentive _).close hws _ true [] rest pos⟩
  | @object members cs hms =>
      have hall := (members_loop .attentive (recordStep fields)).reads_all
        (recordStep_steps hread) (listed_and hms hfits)
        (met_of_nodup members [] hnodup) '\x7b'.toUInt8 rest pos
      exact ⟨_, encode_enclosed (by decide) (by decide) cs rest,
        hall.gives fun _ _ => trivial⟩

/-- A record is read member by member; if it has no defaults, none may be
missing. -/
theorem shaped_record {name : String} {filled : Bool}
    {members : List (String × Value)} {cs : List Char}
    (hnodup : (members.map (·.1)).Nodup)
    (hmissing : filled = false → fields.missing? (members.map (·.1)) = none)
    (hfits : ∀ m ∈ members, MemberFits False fields m)
    (h : Spells (.object members) cs) {ws : List Char} (hws : Blank ws)
    (rest : List UInt8) (pos : Nat) :
    Gives (shaped (.record name filled fields)
      ⟨encode ws ++ (encode cs ++ rest), pos⟩) (.object members) rest := by
  obtain ⟨bytes, hbytes, pos', hloop⟩ :=
    members_gives hread hnodup hfits h rest (pos + ws.length + 1)
  have hblanks : blanks ⟨encode ws ++ (encode cs ++ rest), pos⟩
      = ⟨'\x7b'.toUInt8 :: bytes, pos + ws.length⟩ := by
    rw [blanks_encode hws, hbytes, blanks_of_not_blank (by decide)]
  have hall :
      (if filled then none else fields.missing? (members.reverse.map (·.1)))
        = none := by
    cases filled with
    | true => rfl
    | false =>
        rw [if_neg Bool.false_ne_true, ← hmissing rfl]
        exact Fields.missing?_congr (by simp) fields
  refine ⟨pos', ?_⟩
  rw [shaped]
  simp only [hblanks, at?, advance, List.head?_cons, List.drop_succ_cons,
    List.drop_zero]
  rw [if_neg (by decide), if_pos (by decide)]
  change (Cursor.members .attentive (recordStep fields) _ true [] _ >>= _) = _
  rw [hloop]
  simp only [bind, Except.bind, hall, List.reverse_reverse, pure, Except.pure]

end Records

-- ================================================================ values

mutual

/-- A document that fits a shape is read as it is, from any of its texts. -/
theorem shaped_gives :
    ∀ (s : Shape) {v : Value} {cs : List Char}, s.Fits False v → Spells v cs →
    ∀ {ws : List Char}, Blank ws → ∀ rest pos, Ends rest →
      Gives (shaped s ⟨encode ws ++ (encode cs ++ rest), pos⟩) v rest
  | .boolean, _, _, .boolean b, h, _, hws, rest, pos, _ =>
      shaped_boolean b h hws rest pos
  | .text, _, _, .text s, .string h, _, hws, rest, pos, _ => by
      rw [shaped]
      exact stringThat_gives h hws _ rfl rest pos
  | .path, _, _, .path s, .string h, _, hws, rest, pos, _ => by
      rw [shaped]
      exact stringThat_gives h hws _ rfl rest pos
  | .address, _, _, .address hs, .string h, _, hws, rest, pos, _ => by
      rw [shaped]
      exact stringThat_gives h hws _ (Shape.address?_of_isSome hs) rest pos
  | .natural name bound, _, _, .natural hn, h, _, hws, rest, pos, hrest =>
      shaped_natural hn h hws rest pos hrest
  | .choice name names, _, _, .choice hs, .string h, _, hws, rest, pos, _ => by
      rw [shaped]
      exact choiceOf_gives h hws hs rest pos
  | .optional shape, _, _, .absent, h, _, hws, rest, pos, _ =>
      shaped_null h hws rest pos
  | .optional shape, v, _, .present hv, h, _, hws, rest, pos, hrest => by
      by_cases hnull : v = .null
      · subst hnull
        exact shaped_null h hws rest pos
      · rw [shaped_present h hnull hws]
        exact shaped_gives shape hv h hws rest pos hrest
  | .record name filled fields, _, _, .record hnodup hmissing hfits, h, _, hws,
    rest, pos, _ =>
      shaped_record (memberNamed_gives fields) hnodup hmissing hfits h hws
        rest pos

/-- A member that fits those of a record is read as it is. -/
theorem memberNamed_gives :
    ∀ (fields : Fields) {key : String} {v : Value} {cs : List Char},
    MemberFits False fields (key, v) → Spells v cs →
      ∀ {a b : List Char}, Blank a → Blank b →
      ∀ (seen : Seen), seen.any (·.1 == key) = false → ∀ rest pos, Ends rest →
        ∃ reading, memberNamed key seen fields
            ⟨encode a ++ ':'.toUInt8 :: (encode b ++ (encode cs ++ rest)),
              pos⟩ = some reading
          ∧ Gives reading ((key, v) :: seen) rest
  | .cons name shape fields, _, _, _, .here hv, h, a, _, ha, hb, seen, hseen,
    rest, pos, hrest => by
      obtain ⟨pos', hread⟩ :=
        shaped_gives shape hv h hb rest (pos + a.length + 1) hrest
      refine ⟨_, by rw [memberNamed, if_pos rfl], pos', ?_⟩
      rw [hseen, if_neg Bool.false_ne_true, colon_encode ha]
      simp only [bind, Except.bind, hread, pure, Except.pure]
  | .cons name shape fields, _, _, _, .there hne hfits, h, _, _, ha, hb, seen,
    hseen, rest, pos,
      hrest => by
      rw [memberNamed, if_neg hne]
      exact memberNamed_gives fields hfits h ha hb seen hseen rest pos hrest

end

end PatternCheck.Json.Cursor

namespace PatternCheck

open Json Json.Cursor
open Text.Utf8 (encode encode_append)

/-- A whole text of a document that fits a shape is read as that document. -/
theorem Shape.ofBytes_of_spells {s : Shape} {v : Value} {cs : List Char}
    (hv : s.Fits False v) (h : SpellsDocument v cs) :
    s.ofBytes (encode cs) = .ok v := by
  cases h with
  | @around a t b ha ht hb =>
      obtain ⟨pos, hread⟩ :=
        shaped_gives s hv ht ha (encode b) 0 (ends_blanks hb)
      rw [Shape.ofBytes, whole, start, encode_append, encode_append,
        List.append_assoc, hread]
      simp only [bind, Except.bind, finish_encode hb, pure, Except.pure]

/-- What is written of a document that fits a shape is read as that
document. -/
theorem Shape.ofBytes_chars {s : Shape} {v : Value} (hv : s.Fits False v)
    (hspelled : v.Spelled) : s.ofBytes (encode v.chars) = .ok v :=
  Shape.ofBytes_of_spells hv (chars_spells v hspelled).document

end PatternCheck
