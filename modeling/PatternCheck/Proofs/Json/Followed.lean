import PatternCheck.Proofs.Json.Causes
import PatternCheck.Proofs.Text.Utf8

/-
Reading with more bytes at the end of the text: blanks, words, strings and
numbers. Whoever stops in front of a byte has not looked at anything behind
it, so a reader that leaves some bytes does the same if the text goes on
(`Steady`). A number may be over only because the text is; a string has an
end of its own, and is read the same even if it is the last thing in the
text (`Closed`).

Each reader is compared with itself, in the order in which they call each
other, and there is one lemma for each way to put readers together.
-/

namespace PatternCheck.Json.Cursor

variable {α β σ : Type} {c d : Cursor} {more : List UInt8}

/-- The same place in a text that has more bytes at its end. -/
def followedBy (c : Cursor) (more : List UInt8) : Cursor :=
  ⟨c.rest ++ more, c.pos⟩

/-- What is read from a place is the same with more bytes at the end of the
text, if some bytes are left. -/
def Steady (more : List UInt8) (c : Cursor) (r r' : Reading α) : Prop :=
  ∀ a d, r = .ok (a, d) →
    d.rest <:+ c.rest ∧ (d.rest ≠ [] → r' = .ok (a, d.followedBy more))

/-- What is read from a place is the same with more bytes at the end of the
text, whether or not any bytes are left. At least one has been read. -/
def Closed (more : List UInt8) (c : Cursor) (r r' : Reading α) : Prop :=
  ∀ a d, r = .ok (a, d) →
    c.rest ≠ [] ∧ d.rest <:+ c.rest ∧ r' = .ok (a, d.followedBy more)

-- ============================================================== outcomes

section Outcomes

variable {r r' r₁ s s' : Reading α}

theorem suffix_ne_nil {l m : List UInt8} (h : l <:+ m) (hl : l ≠ []) :
    m ≠ [] := by
  rintro rfl
  exact hl (List.suffix_nil.1 h)

/-- To be read the same at the end of the text, too, is more than to be read
the same in front of some bytes. -/
theorem Closed.steady (h : Closed more c r r') : Steady more c r r' :=
  fun a d hr => ⟨(h a d hr).2.1, fun _ => (h a d hr).2.2⟩

theorem Steady.error {p : Problem} : Steady more c (.error p) r' :=
  fun _ _ h => nomatch h

theorem Closed.error {p : Problem} : Closed more c (.error p) r' :=
  fun _ _ h => nomatch h

/-- Nothing is read any more. -/
theorem Steady.ok (a : α) :
    Steady more c (.ok (a, c)) (.ok (a, c.followedBy more)) := by
  intro b d h
  cases h
  exact ⟨List.suffix_refl _, fun _ => rfl⟩

/-- Only the next byte is read. -/
theorem Closed.next (a : α) (b : UInt8) (bs : List UInt8) (pos : Nat) :
    Closed more ⟨b :: bs, pos⟩ (.ok (a, ⟨bs, pos + 1⟩))
      (.ok (a, ⟨bs ++ more, pos + 1⟩)) := by
  intro b' d h
  cases h
  exact ⟨List.cons_ne_nil _ _, List.suffix_cons _ _, rfl⟩

/-- What is read behind some bytes, which are passed over in the same way as
long as they are not the last ones. -/
theorem Steady.behind (hd : d.rest <:+ c.rest) (h : Steady more d r r₁)
    (hr : d.rest ≠ [] → r' = r₁) : Steady more c r r' := by
  intro a e he
  obtain ⟨hsuffix, hmore⟩ := h a e he
  refine ⟨hsuffix.trans hd, fun hne => ?_⟩
  rw [hr (suffix_ne_nil hsuffix hne), hmore hne]

/-- The same for what has an end of its own. -/
theorem Closed.behind (hd : d.rest <:+ c.rest) (h : Closed more d r r₁)
    (hr : d.rest ≠ [] → r' = r₁) : Closed more c r r' := by
  intro a e he
  obtain ⟨hne, hsuffix, hmore⟩ := h a e he
  exact ⟨suffix_ne_nil hd hne, hsuffix.trans hd, by rw [hr hne, hmore]⟩

theorem Steady.map (h : Steady more c r r') (g : α → β) :
    Steady more c (r.map fun (x, d) => (g x, d))
      (r'.map fun (x, d) => (g x, d)) := by
  cases r with
  | error p => exact .error
  | ok x =>
      intro a d had
      cases had
      obtain ⟨hsuffix, hmore⟩ := h x.1 x.2 rfl
      exact ⟨hsuffix, fun hne => by rw [hmore hne]; rfl⟩

theorem Closed.map (h : Closed more c r r') (g : α → β) :
    Closed more c (r.map fun (x, d) => (g x, d))
      (r'.map fun (x, d) => (g x, d)) := by
  cases r with
  | error p => exact .error
  | ok x =>
      intro a d had
      cases had
      obtain ⟨hne, hsuffix, hmore⟩ := h x.1 x.2 rfl
      exact ⟨hne, hsuffix, by rw [hmore]; rfl⟩

/-- One reader after another. If the second leaves some bytes, so has the
first. -/
theorem Steady.bind {next next' : α × Cursor → Reading β}
    (h : Steady more c r r')
    (hnext : ∀ a d, Steady more d (next (a, d))
      (next' (a, d.followedBy more))) :
    Steady more c (r.bind next) (r'.bind next') := by
  cases r with
  | error p => exact .error
  | ok x =>
      obtain ⟨hsuffix, hmore⟩ := h x.1 x.2 rfl
      exact .behind hsuffix (hnext x.1 x.2) fun hne => by rw [hmore hne]; rfl

/-- A choice that is made before the text is looked at. -/
theorem Steady.ite {p : Prop} [Decidable p] (h : Steady more c r r')
    (h' : Steady more c s s') :
    Steady more c (if p then r else s) (if p then r' else s') := by
  split
  · exact h
  · exact h'

theorem Closed.ite {p : Prop} [Decidable p] (h : Closed more c r r')
    (h' : Closed more c s s') :
    Closed more c (if p then r else s) (if p then r' else s') := by
  split
  · exact h
  · exact h'

/-- A question about the next byte gets the same answer if there is one. -/
theorem Steady.ite_next {q q' : Bool} (hq : c.rest ≠ [] → q' = q)
    (h : Steady more c r r') (h' : Steady more c s s') :
    Steady more c (if q then r else s) (if q' then r' else s') :=
  .behind (List.suffix_refl _) (.ite (p := q = true) h h') fun hne => by
    rw [hq hne]

end Outcomes

-- =============================================================== blanks

/-- What some bytes begin with does not depend on what stands behind, if
something is left. -/
theorem span_append {p : UInt8 → Bool} {l : List UInt8}
    (h : l.dropWhile p ≠ []) (more : List UInt8) :
    (l ++ more).takeWhile p = l.takeWhile p
      ∧ (l ++ more).dropWhile p = l.dropWhile p ++ more := by
  induction l with
  | nil => exact absurd rfl h
  | cons b l ih =>
      cases hb : p b with
      | true =>
          rw [List.dropWhile_cons_of_pos hb] at h
          obtain ⟨htake, hdrop⟩ := ih h
          simp only [List.cons_append, List.takeWhile_cons_of_pos hb,
            List.dropWhile_cons_of_pos hb, htake, hdrop, and_self]
      | false => simp [hb]

/-- Blanks are passed over in the same way, if they are not the last bytes. -/
theorem blanks_followedBy (c : Cursor) (more : List UInt8) :
    ∃ d, c.blanks = d ∧ d.rest <:+ c.rest ∧
      (d.rest ≠ [] → (c.followedBy more).blanks = d.followedBy more) := by
  refine ⟨_, rfl, List.dropWhile_suffix _, fun hne => ?_⟩
  obtain ⟨htake, hdrop⟩ := span_append hne more
  simp only [blanks, followedBy, htake, hdrop]

-- ================================================================ words

/-- A word is over with its last letter, whatever follows it. -/
theorem word_steady (a : α) (bs : List UInt8) : ∀ c : Cursor,
    Steady more c ((c.word bs).map (a, ·))
      (((c.followedBy more).word bs).map (a, ·)) := by
  induction bs with
  | nil => exact fun c => .ok a
  | cons b bs ih =>
      rintro ⟨_ | ⟨b', rest⟩, pos⟩
      · exact .error
      · simp only [followedBy, List.cons_append, word]
        split
        · exact .behind (List.suffix_cons _ _) (ih _) fun _ => rfl
        · exact .error

theorem literal_steady (a : α) (text : String) (c : Cursor) :
    Steady more c ((c.literal text).map (a, ·))
      (((c.followedBy more).literal text).map (a, ·)) :=
  word_steady a _ c

-- ============================================================== strings

/-- What is read has a property, and is the same with more bytes at the end
of the text. -/
def Kept (P : α → Prop) (r r' : Except Problem α) : Prop :=
  ∀ a, r = .ok a → P a ∧ r' = .ok a

section Kept

variable {P : α → Prop} {Q : β → Prop} {r r' s s' : Except Problem α}

theorem Kept.error {p : Problem} : Kept P (.error p) r' := fun _ h => nomatch h

theorem Kept.ok {a : α} (h : P a) : Kept P (.ok a) (.ok a) := by
  intro b hb
  cases hb
  exact ⟨h, rfl⟩

theorem Kept.ite {p : Prop} [Decidable p] (h : Kept P r r')
    (h' : Kept P s s') :
    Kept P (if p then r else s) (if p then r' else s') := by
  split
  · exact h
  · exact h'

/-- One step after another, each with a property of what it reads. -/
theorem Kept.bind {next next' : α → Except Problem β} (h : Kept P r r')
    (hnext : ∀ a, P a → Kept Q (next a) (next' a)) :
    Kept Q (r.bind next) (r'.bind next') := by
  cases r with
  | error p => exact .error
  | ok a =>
      obtain ⟨ha, hr⟩ := h a rfl
      rw [hr]
      exact hnext a ha

/-- What is made of something read has the property if that has. -/
theorem Kept.map {g : α → β} (h : Kept P r r') (hg : ∀ a, P a → Q (g a)) :
    Kept Q (r.map g) (r'.map g) := by
  cases r with
  | error p => exact .error
  | ok a =>
      obtain ⟨ha, hr⟩ := h a rfl
      rw [hr]
      exact .ok (hg a ha)

/-- A reader that needs some bytes needs them behind those that are passed
over. -/
theorem Kept.beyond {read : Cursor → Except Problem α} {k : Nat}
    (h : ∀ c : Cursor, Kept (fun _ => k < c.rest.length) (read c)
      (read (c.followedBy more)))
    (c : Cursor) (n : Nat) :
    Kept (fun _ => n + k < c.rest.length) (read (c.advance n))
      (read ((c.followedBy more).advance n)) := by
  intro a ha
  obtain ⟨hk, hmore⟩ := h _ a ha
  rw [advance, List.length_drop] at hk
  have hn : n ≤ c.rest.length := by omega
  refine ⟨by omega, ?_⟩
  rwa [advance, followedBy, List.drop_append_of_le_length hn]

end Kept

/-- Four digits are there, so there are four bytes at least. -/
theorem hexFour_kept (c : Cursor) :
    Kept (fun _ => 3 < c.rest.length) c.hexFour
      (c.followedBy more).hexFour := by
  obtain ⟨_ | ⟨b₁, _ | ⟨b₂, _ | ⟨b₃, _ | ⟨b₄, rest⟩⟩⟩⟩, pos⟩ := c
  iterate 4 exact .error
  simp only [followedBy, List.cons_append, hexFour]
  cases hexValue? b₁ b₂ b₃ b₄ with
  | none => exact .error
  | some n => exact .ok (by simp)

/-- The mark that a second half begins with is there. -/
theorem pairMark_kept (x : Char) (c : Cursor) :
    Kept (fun _ => 0 < c.rest.length) (c.pairMark x)
      ((c.followedBy more).pairMark x) := by
  obtain ⟨_ | ⟨b, rest⟩, pos⟩ := c
  · exact .error
  · exact .ite .error (.ite (.ok (by simp)) .error)

/-- A character that is written by its number, with all the bytes of the
number. -/
theorem numberedChar_kept (c : Cursor) :
    Kept (·.2 ≤ c.rest.length) c.numberedChar
      (c.followedBy more).numberedChar := by
  refine (hexFour_kept c).bind fun n hn => .ite .error (.ite ?_ (.ok hn))
  refine (Kept.beyond (pairMark_kept _) c 4).bind fun () _ => ?_
  refine (Kept.beyond (pairMark_kept _) c 5).bind fun () _ => ?_
  exact (Kept.beyond hexFour_kept c 6).bind fun n' hn' => .ite (.ok hn') .error

/-- An escape takes no more bytes than there are. -/
theorem escape_kept (c : Cursor) :
    Kept (·.2 ≤ c.rest.length) c.escape (c.followedBy more).escape := by
  obtain ⟨_ | ⟨b, rest⟩, pos⟩ := c
  · exact .error
  · refine .ite ((numberedChar_kept ⟨rest, pos + 1⟩).map fun x h =>
      Nat.succ_le_succ h) ?_
    · cases lettered? b with
      | none => exact .error
      | some x => exact .ok (by simp)

/-- Of a string with a byte that belongs to no character nothing is read. -/
theorem stringFrom_bad {acc : List Char} {bad : Option Nat} {pos : Nat}
    {bytes : List UInt8} {x : List Char × Cursor}
    (h : stringFrom acc bad pos bytes = .ok x) : bad = none := by
  fun_induction stringFrom acc bad pos bytes with
  | case1 | case3 | case4 | case6 => cases h
  | case2 => rfl
  | case5 _ _ _ _ _ _ _ _ ih => exact ih h
  | case7 _ _ _ _ _ _ _ _ _ _ _ ih => exact ih h
  | case8 acc bad pos _ _ _ _ _ _ ih =>
      have hbad := ih h
      cases bad <;> cases hbad

/-- A string is over with its quotation mark, whatever follows it. -/
theorem stringFrom_closed (acc : List Char) (bad : Option Nat) (pos : Nat)
    (bytes : List UInt8) :
    Closed more ⟨bytes, pos⟩ (stringFrom acc bad pos bytes)
      (stringFrom acc bad pos (bytes ++ more)) := by
  fun_induction stringFrom acc bad pos bytes with
  | case1 | case3 | case4 | case6 => exact .error
  | case2 acc pos rest =>
      rw [List.cons_append, stringFrom, if_pos rfl]
      exact .next _ _ _ _
  | case5 acc bad pos rest x n hescape hquote ih =>
      obtain ⟨hlength, hmore⟩ :
          n ≤ rest.length ∧ escape ⟨rest ++ more, pos + 1⟩ = .ok (x, n) :=
        escape_kept ⟨rest, pos + 1⟩ _ hescape
      have hstep : stringFrom acc bad pos ('\\'.toUInt8 :: (rest ++ more))
          = stringFrom (x :: acc) bad (pos + 1 + n) (rest.drop n ++ more) := by
        rw [stringFrom.eq_def]
        simp only [if_neg hquote, if_true, hmore,
          List.drop_append_of_le_length hlength]
      rw [List.cons_append, hstep]
      exact ih.behind ((List.drop_suffix n rest).trans (List.suffix_cons _ _))
        fun _ => rfl
  | case7 acc bad pos b rest hquote hslash hcontrol x n hpiece ih =>
      obtain ⟨hn, hlength, hmore⟩ := Text.Utf8.piece_append hpiece more
      rw [List.length_cons] at hlength
      rw [List.cons_append] at hmore ⊢
      have hstep : stringFrom acc bad pos (b :: (rest ++ more))
          = stringFrom (x :: acc) bad (pos + n)
          (rest.drop (n - 1) ++ more) := by
        rw [stringFrom.eq_def]
        simp only [if_neg hquote, if_neg hslash, if_neg hcontrol, hmore,
          List.drop_append_of_le_length (show n - 1 ≤ rest.length by omega)]
      rw [hstep]
      exact ih.behind ((List.drop_suffix _ rest).trans (List.suffix_cons _ _))
        fun _ => rfl
  | case8 acc bad pos =>
      -- the string is not read, whatever stands behind it
      intro x d h
      have hbad := stringFrom_bad h
      cases bad <;> cases hbad

theorem string_closed (c : Cursor) :
    Closed more c c.string (c.followedBy more).string :=
  (stringFrom_closed [] none c.pos c.rest).map _

-- ============================================================== numbers

/-- Digits are taken in the same way, if they are not the last bytes. -/
theorem digits_followedBy (c : Cursor) (more : List UInt8) :
    ∃ ds d, c.digits = (ds, d) ∧ d.rest <:+ c.rest ∧
      (d.rest ≠ [] → (c.followedBy more).digits
        = (ds, d.followedBy more)) := by
  refine ⟨_, _, rfl, List.dropWhile_suffix _, fun hne => ?_⟩
  obtain ⟨htake, hdrop⟩ := span_append hne more
  simp only [digits, followedBy, htake, hdrop]

/-- The sign of an exponent is taken in the same way, if it is not the last
byte. -/
theorem exponentSign_followedBy (c : Cursor) (more : List UInt8) :
    ∃ down d, c.exponentSign = (down, d) ∧ d.rest <:+ c.rest ∧
      (d.rest ≠ [] → (c.followedBy more).exponentSign
        = (down, d.followedBy more)) := by
  obtain ⟨_ | ⟨b, rest⟩, pos⟩ := c
  · exact ⟨_, _, rfl, List.suffix_refl _, fun hne => absurd rfl hne⟩
  · have hnext (x : Char) :
        (followedBy ⟨b :: rest, pos⟩ more).at? x = at? ⟨b :: rest, pos⟩ x :=
      rfl
    have hsuffix : (advance ⟨b :: rest, pos⟩ 1).rest <:+ b :: rest :=
      List.suffix_cons _ _
    simp only [exponentSign, hnext]
    split
    · exact ⟨_, _, rfl, hsuffix, fun _ => rfl⟩
    · split
      · exact ⟨_, _, rfl, hsuffix, fun _ => rfl⟩
      · exact ⟨_, _, rfl, List.suffix_refl _, fun _ => rfl⟩

/-- Once its parts are read, a number does not look at the text any more. -/
theorem decimal_steady (isNegative : Bool) (significand : Nat) (exponent : Int)
    (c : Cursor) :
    Steady more c (c.decimal isNegative significand exponent)
      ((c.followedBy more).decimal isNegative significand exponent) := by
  unfold decimal
  cases Number.approximate significand exponent with
  | none => exact .error
  | some x => exact .ok _

/-- The next byte is the same one, if there is one. -/
theorem at?_followedBy (x : Char) (h : c.rest ≠ []) :
    (c.followedBy more).at? x = c.at? x := by
  obtain ⟨_ | ⟨b, rest⟩, pos⟩ := c
  · exact absurd rfl h
  · rfl

theorem atExponent_followedBy (h : c.rest ≠ []) :
    (c.followedBy more).atExponent = c.atExponent := by
  rw [atExponent, atExponent, at?_followedBy _ h, at?_followedBy _ h]

/-- A place behind the next byte is in the text at the same distance, if
there is a next byte. -/
theorem advance_one_followedBy (c : Cursor) (more : List UInt8) :
    ∃ d, c.advance 1 = d ∧ d.rest <:+ c.rest ∧
      (d.rest ≠ [] → (c.followedBy more).advance 1 = d.followedBy more) := by
  obtain ⟨_ | ⟨b, rest⟩, pos⟩ := c
  · exact ⟨_, rfl, List.suffix_refl _, fun hne => absurd rfl hne⟩
  · exact ⟨_, rfl, List.suffix_cons _ _, fun _ => rfl⟩

/-- The digits of an exponent end at another byte, or with the text. -/
theorem exponent_steady (isNegative : Bool) (significand : Nat) (shift : Int)
    (c : Cursor) :
    Steady more c (c.exponent isNegative significand shift)
      ((c.followedBy more).exponent isNegative significand shift) := by
  obtain ⟨d, hd, hsuffix, hmore⟩ := advance_one_followedBy c more
  obtain ⟨down, e, he, hsuffix', hmore'⟩ := exponentSign_followedBy d more
  rw [exponent, hd, he]
  refine .behind (hsuffix'.trans hsuffix) ?_ fun hne => by
    rw [exponent, hmore (suffix_ne_nil hsuffix' hne), hmore' hne]
  obtain ⟨_ | ⟨b, rest⟩, pos⟩ := e
  · exact .error
  · refine .ite .error ?_
    obtain ⟨ds, after, hds, hrest, hafter⟩ :=
      digits_followedBy ⟨b :: rest, pos⟩ more
    rw [hds]
    dsimp only
    cases hvalue : exponentValue 0 0 ds with
    | ok e =>
        exact .behind hrest (decimal_steady _ _ _ after) fun hne => by
          rw [hafter hne]
          dsimp only
          rw [hvalue]
    | error n =>
        exact .behind hrest (.ite (.ok _) .error) fun hne => by
          rw [hafter hne]
          dsimp only
          rw [hvalue]

/-- So do those of a fraction. -/
theorem fraction_steady (isNegative : Bool) (significand : Nat) (shift : Int)
    (c : Cursor) :
    Steady more c (c.fraction isNegative significand shift)
      ((c.followedBy more).fraction isNegative significand shift) := by
  obtain ⟨d, hd, hsuffix, hmore⟩ := advance_one_followedBy c more
  obtain ⟨ds, after, hds, hrest, hafter⟩ := digits_followedBy d more
  rw [fraction, hd, hds]
  refine .behind (hrest.trans hsuffix) ?_ fun hne => by
    rw [fraction, hmore (suffix_ne_nil hrest hne), hafter hne]
  dsimp only
  refine .ite ?_ ?_
  · split <;> exact .error
  obtain ⟨s, n⟩ := gather significand ds
  exact .ite_next atExponent_followedBy (exponent_steady _ _ _ _)
    (decimal_steady _ _ _ _)

/-- So do those in front of the point. -/
theorem unsigned_steady (isNegative : Bool) (c : Cursor) :
    Steady more c (c.unsigned isNegative)
      ((c.followedBy more).unsigned isNegative) := by
  obtain ⟨_ | ⟨b, next⟩, pos⟩ := c
  · exact .error
  obtain ⟨ds, after, hds, hrest, hafter⟩ :=
    digits_followedBy ⟨b :: next, pos⟩ more
  rw [unsigned, hds]
  dsimp only
  cases hb : isDigit b with
  | false => exact .error
  | true =>
      refine .behind hrest (.ite .error (.ite .error ?_)) fun hne => by
        have hhead : (next ++ more).head? = next.head? := by
          cases next with
          | nil =>
              have hrest : after.rest = [b].dropWhile isDigit :=
                congrArg (·.2.rest) hds.symm
              exact absurd (by rw [hrest, List.dropWhile_cons_of_pos hb,
                List.dropWhile_nil]) hne
          | cons => rfl
        rw [followedBy, List.cons_append] at hafter ⊢
        rw [unsigned, hafter hne]
        dsimp only
        rw [hhead, hb]
      obtain ⟨s, n⟩ := gather 0 ds
      refine .ite_next (at?_followedBy _) (fraction_steady _ _ _ _) ?_
      exact .ite_next atExponent_followedBy (exponent_steady _ _ _ _)
        (.ite (.ok _) (decimal_steady _ _ _ _))

/-- A number is the same one if the text goes on behind the byte that ended
it. -/
theorem number_steady (c : Cursor) :
    Steady more c c.number (c.followedBy more).number := by
  obtain ⟨d, hd, hsuffix, hmore⟩ := advance_one_followedBy c more
  refine .ite_next (at?_followedBy _) ?_ (unsigned_steady _ c)
  rw [hd]
  exact .behind hsuffix (unsigned_steady true d) fun hne => by rw [hmore hne]

end PatternCheck.Json.Cursor
