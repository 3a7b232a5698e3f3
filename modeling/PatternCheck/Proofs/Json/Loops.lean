import PatternCheck.Json.Document
import PatternCheck.Proofs.Json.Numerals

/-
Lists and objects, read from their texts, for any reader of a single item.
The two loops differ in what they say about bad texts and agree on good
ones: both pass over what leads to an item, read it and go on, or come to
the closing bracket (`Loop`). What they make of a whole text is therefore
said once (`Loop.reads`), and it is the fold of what is made of each item.

A reader may also find that an item has too many levels. It then stops, and
so does the loop; `GivesIf` is the outcome in both cases.
-/

namespace PatternCheck.Json.Cursor

open Text.Utf8 (encode encode_cons_ascii encode_append)

-- ============================================================== outcomes

/-- Reading gives a thing and leaves the given bytes if the thing fits;
otherwise it stops because there are too many levels. -/
structure GivesIf {α : Type} (fits : Prop) (r : Reading α) (a : α)
    (rest : List UInt8) : Prop where
  gives : fits → Gives r a rest
  stops : ¬ fits → ∃ pos, r = .error ⟨.tooDeep, pos⟩

section Outcomes

variable {α β : Type} {fits fits' : Prop} {r : Reading α} {a : α}
  {rest : List UInt8}

theorem Gives.map (h : Gives r a rest) (g : α → β) :
    Gives (r.map fun (x, c) => (g x, c)) (g a) rest := by
  obtain ⟨pos, rfl⟩ := h
  exact ⟨pos, rfl⟩

/-- What fits in any case is given. -/
theorem Gives.givesIf (h : Gives r a rest) (hfits : fits) :
    GivesIf fits r a rest :=
  ⟨fun _ => h, fun hnot => absurd hfits hnot⟩

theorem GivesIf.map (h : GivesIf fits r a rest) (g : α → β) :
    GivesIf fits (r.map fun (x, c) => (g x, c)) (g a) rest := by
  refine ⟨fun hfits => (h.gives hfits).map g, fun hnot => ?_⟩
  obtain ⟨pos, hr⟩ := h.stops hnot
  exact ⟨pos, by rw [hr]; rfl⟩

theorem GivesIf.congr (h : GivesIf fits r a rest) (hfits : fits ↔ fits') :
    GivesIf fits' r a rest :=
  ⟨fun h' => h.gives (hfits.2 h'),
    fun hnot => h.stops fun h' => hnot (hfits.1 h')⟩

/-- One thing is read after the other, and both have to fit. -/
theorem GivesIf.bind {b : β} {rest' : List UInt8}
    {next : α × Cursor → Reading β} (h : GivesIf fits r a rest)
    (hnext : ∀ pos, GivesIf fits' (next (a, ⟨rest, pos⟩)) b rest') :
    GivesIf (fits ∧ fits') (r.bind next) b rest' := by
  constructor
  · rintro ⟨hfits, hfits'⟩
    obtain ⟨pos, rfl⟩ := h.gives hfits
    exact (hnext pos).gives hfits'
  · intro hnot
    by_cases hfits : fits
    · obtain ⟨pos, rfl⟩ := h.gives hfits
      exact (hnext pos).stops fun hfits' => hnot ⟨hfits, hfits'⟩
    · obtain ⟨pos, rfl⟩ := h.stops hfits
      exact ⟨pos, rfl⟩

end Outcomes

-- ================================================================= loops

/-- Blanks, then what may follow a value: all this may follow it. -/
theorem ends_blank {ws : List Char} (h : Blank ws) {rest : List UInt8}
    (hrest : Ends rest) : Ends (encode ws ++ rest) := by
  cases ws with
  | nil => exact hrest
  | cons c ws =>
      obtain ⟨hc, hblank, -⟩ := isBlank_of_blank h
      rw [encode_cons_ascii hc, List.cons_append]
      intro b hb
      cases hb
      exact .inl hblank

/-- Blanks and then nothing may follow a value, too. -/
theorem ends_blanks {ws : List Char} (h : Blank ws) : Ends (encode ws) := by
  have hnone : Ends [] := fun b hb => absurd hb (by simp)
  have hends := ends_blank h hnone
  rwa [List.append_nil] at hends

/-- What leads to an item: blanks, with a comma among them if the item is
not the first one. -/
inductive Lead : Bool → List Char → Prop
  | first {a : List Char} : Blank a → Lead true a
  | next {w a : List Char} : Blank w → Blank a → Lead false (w ++ ',' :: a)

theorem Lead.append {first : Bool} {l a : List Char} (hl : Lead first l)
    (ha : Blank a) : Lead first (l ++ a) := by
  cases hl with
  | first h => exact .first (h.append ha)
  | next h h' =>
      rw [List.append_assoc, List.cons_append]
      exact .next h (h'.append ha)

/-- What is common to the two loops. `opens` says with what an item may
begin. -/
structure Loop {σ : Type} (step : Step σ) (closing : Char)
    (opens : UInt8 → Prop) (loop : Nat → Bool → Step σ) : Prop where
  ends : ∀ rest, Ends (closing.toUInt8 :: rest)
  /-- At the closing bracket the loop is over. -/
  close : ∀ {b : List Char}, Blank b → ∀ fuel first s rest pos,
    Gives (loop (fuel + 1) first s ⟨encode b ++ closing.toUInt8 :: rest, pos⟩)
    s rest
  /-- At an item the step is taken and the loop goes on. -/
  enter : ∀ {first : Bool} {l : List Char}, Lead first l →
    ∀ {b : UInt8}, opens b →
    ∀ fuel s bytes pos, ∃ pos',
    loop (fuel + 1) first s ⟨encode l ++ b :: bytes, pos⟩ =
      (step s ⟨b :: bytes, pos'⟩).bind fun (s, c) => loop fuel false s c

/-- A step reads an item from its text and changes the state by it, if the
state allows it. -/
structure Steps {σ : Type} (step : Step σ) (opens : UInt8 → Prop)
    (allows : σ → Prop) (fits : Prop) (f : σ → σ)
    (text : List Char) : Prop where
  opens : ∃ b bs, encode text = b :: bs ∧ opens b
  reads : ∀ s rest pos, allows s → Ends rest →
    GivesIf fits (step s ⟨encode text ++ rest, pos⟩) (f s) rest

/-- Whether each of some items is allowed by the state in which it is met. -/
def Met {σ α : Type} (allows : α → σ → Prop) (f : α → σ → σ) :
    List α → σ → Prop
  | [], _ => True
  | x :: xs, s => allows x s ∧ Met allows f xs (f x s)

theorem met_of_forall {σ α : Type} {allows : α → σ → Prop} {f : α → σ → σ}
    (h : ∀ x s, allows x s) : ∀ (xs : List α) (s : σ), Met allows f xs s
  | [], _ => trivial
  | x :: xs, s => ⟨h x s, met_of_forall h xs (f x s)⟩

/-- There are no more items than bytes. -/
theorem Listed.length_le {σ α : Type} {step : Step σ} {opens : UInt8 → Prop}
    {allows : α → σ → Prop} {fits : α → Prop} {f : α → σ → σ}
    {P : α → List Char → Prop}
    (hP : ∀ x t, P x t → Steps step opens (allows x) (fits x) (f x) t)
    {xs : List α} {cs : List Char} (h : Listed P xs cs) :
    xs.length ≤ (encode cs).length := by
  induction h with
  | one _ hx _ =>
      obtain ⟨b, bs, hb, -⟩ := (hP _ _ hx).opens
      simp only [encode_append, hb, List.length_append, List.length_cons,
        List.length_nil]
      omega
  | more _ _ _ _ ih =>
      simp only [encode_append,
        encode_cons_ascii (show ','.toNat < 0x80 by decide),
        List.length_append, List.length_cons]
      omega

/-- A loop makes of a text the fold of what is made of each item. -/
theorem Loop.reads {σ α : Type} {step : Step σ} {closing : Char}
    {opens : UInt8 → Prop} {loop : Nat → Bool → Step σ}
    (hloop : Loop step closing opens loop) {allows : α → σ → Prop}
    {fits : α → Prop} {f : α → σ → σ} {P : α → List Char → Prop}
    (hP : ∀ x t, P x t → Steps step opens (allows x) (fits x) (f x) t)
    (rest : List UInt8) {xs : List α} {cs : List Char} (h : Listed P xs cs) :
    ∀ {first : Bool} {l : List Char}, Lead first l → ∀ s, Met allows f xs s →
      ∀ fuel pos, xs.length < fuel →
      GivesIf (∀ x ∈ xs, fits x)
        (loop fuel first s
          ⟨encode l ++ (encode cs ++ closing.toUInt8 :: rest), pos⟩)
        (xs.foldl (fun s x => f x s) s) rest := by
  induction h with
  | @one x a t b ha hx hb =>
      intro first l hl s hmet fuel pos hfuel
      obtain ⟨fuel, rfl⟩ : ∃ n, fuel = n + 1 + 1 :=
        ⟨fuel - 2, by simp at hfuel; omega⟩
      obtain ⟨⟨c, bs, hc, hopens⟩, hreads⟩ := hP x t hx
      obtain ⟨pos', henter⟩ := hloop.enter (hl.append ha) hopens (fuel + 1) s
        (bs ++ (encode b ++ closing.toUInt8 :: rest)) pos
      have htext :
          encode l ++ (encode (a ++ t ++ b) ++ closing.toUInt8 :: rest)
            = encode (l ++ a) ++ c
              :: (bs ++ (encode b ++ closing.toUInt8 :: rest)) := by
        simp [hc]
      have hstep := hreads s _ pos' hmet.1 (ends_blank hb (hloop.ends rest))
      rw [hc, List.cons_append] at hstep
      rw [htext, henter]
      have hclose (p : Nat) : GivesIf True _ _ rest :=
        (hloop.close hb fuel false (f x s) rest p).givesIf trivial
      exact (hstep.bind hclose).congr (by simp)
  | @more x xs a t b ts ha hx hb hxs ih =>
      intro first l hl s hmet fuel pos hfuel
      obtain ⟨fuel, rfl⟩ : ∃ n, fuel = n + 1 :=
        ⟨fuel - 1, by simp at hfuel; omega⟩
      obtain ⟨⟨c, bs, hc, hopens⟩, hreads⟩ := hP x t hx
      have hcomma : ∀ cs, encode (',' :: cs) = ','.toUInt8 :: encode cs :=
        encode_cons_ascii (by decide)
      obtain ⟨pos', henter⟩ := hloop.enter (hl.append ha) hopens fuel s
        (bs ++ (encode (b ++ [',']) ++ (encode ts ++ closing.toUInt8 :: rest)))
        pos
      have htext :
          encode l ++ (encode (a ++ t ++ b ++ ',' :: ts)
            ++ closing.toUInt8 :: rest)
            = encode (l ++ a) ++ c :: (bs ++ (encode (b ++ [','])
              ++ (encode ts ++ closing.toUInt8 :: rest))) := by
        simp [hc, -Text.Utf8.encode_cons, hcomma]
      have hends :
          Ends
          (encode (b ++ [',']) ++ (encode ts ++ closing.toUInt8 :: rest)) := by
        rw [encode_append, List.append_assoc]
        refine ends_blank hb fun c hc => ?_
        rw [hcomma] at hc
        cases hc
        exact .inr (.inl rfl)
      have hstep := hreads s _ pos' hmet.1 hends
      rw [hc, List.cons_append] at hstep
      rw [htext, henter]
      have hmore (p : Nat) :=
        ih (.next hb .nil) (f x s) hmet.2 fuel p (by simpa using hfuel)
      exact (hstep.bind hmore).congr List.forall_mem_cons.symm

/-- A loop that puts each item in front of those before, from the opening
bracket to the closing one; there are no more items than bytes. -/
theorem Loop.reads_all {α : Type} {step : Step (List α)} {closing : Char}
    {opens : UInt8 → Prop} {loop : Nat → Bool → Step (List α)}
    (hloop : Loop step closing opens loop) {allows : α → List α → Prop}
    {fits : α → Prop} {P : α → List Char → Prop}
    (hP : ∀ x t, P x t → Steps step opens (allows x) (fits x) (x :: ·) t)
    {xs : List α} {cs : List Char} (h : Listed P xs cs)
    (hmet : Met allows (fun x s => x :: s) xs []) (opening : UInt8)
    (rest : List UInt8) (pos : Nat) :
    GivesIf (∀ x ∈ xs, fits x)
      (loop (opening :: (encode cs ++ closing.toUInt8 :: rest)).length true []
        ⟨encode cs ++ closing.toUInt8 :: rest, pos⟩) xs.reverse rest := by
  have hfuel :
      xs.length
        < (opening :: (encode cs ++ closing.toUInt8 :: rest)).length := by
    have hlength := Listed.length_le hP h
    rw [List.length_cons, List.length_append]
    omega
  have hfold : xs.foldl (fun s x => x :: s) [] = xs.reverse := by
    simp
  have hreads := hloop.reads hP rest h (.first .nil) [] hmet _ pos hfuel
  rwa [hfold] at hreads

-- ======================================================= the two loops

/-- The loop over a list. -/
theorem items_loop {σ : Type} (m : Manner) (step : Step σ) :
    Loop step ']' (fun b => isBlank b = false ∧ b ≠ ']'.toUInt8)
      (items m step) where
  ends rest b hb := by
    cases hb
    exact .inr (.inr (.inl rfl))
  close {b} hb fuel first s rest pos := by
    have hblanks := blanks_encode hb (']'.toUInt8 :: rest) pos
    rw [blanks_of_not_blank (by decide)] at hblanks
    refine ⟨pos + b.length + 1, ?_⟩
    simp [items, hblanks, at?, advance]
  enter {first l} hl b hb fuel s bytes pos := by
    obtain ⟨hblank, hclosing⟩ := hb
    cases hl with
    | first ha =>
        have hblanks := blanks_encode ha (b :: bytes) pos
        rw [blanks_of_not_blank hblank] at hblanks
        refine ⟨pos + l.length, ?_⟩
        simp only [items, hblanks, at?]
        simp only [List.isEmpty_cons, List.head?_cons, Option.some_beq_some,
          beq_iff_eq, hclosing, Bool.false_eq_true, if_false, if_true]
        cases step s ⟨b :: bytes, pos + l.length⟩ <;> rfl
    | @next w a hw ha =>
        have hcomma :=
          blanks_encode hw (','.toUInt8 :: (encode a ++ b :: bytes)) pos
        have hblanks := blanks_encode ha (b :: bytes) (pos + w.length + 1)
        rw [blanks_of_not_blank (by decide)] at hcomma
        rw [blanks_of_not_blank hblank] at hblanks
        refine ⟨pos + w.length + 1 + a.length, ?_⟩
        rw [encode_append, encode_cons_ascii (by decide), List.append_assoc,
          List.cons_append]
        have hne : ','.toUInt8 ≠ ']'.toUInt8 := by decide
        simp only [items, hcomma, at?, advance, List.drop_succ_cons,
          List.drop_zero, hblanks]
        simp only [List.isEmpty_cons, List.head?_cons, Option.some_beq_some,
          beq_iff_eq, hclosing, hne, Bool.false_eq_true, if_false, if_true]
        cases step s ⟨b :: bytes, pos + w.length + 1 + a.length⟩ <;> rfl

/-- The loop over an object. -/
theorem members_loop {σ : Type} (m : Manner) (step : Step σ) :
    Loop step '\x7d' (· = '"'.toUInt8) (members m step) where
  ends rest b hb := by
    cases hb
    exact .inr (.inr (.inr rfl))
  close {b} hb fuel first s rest pos := by
    have hblanks := blanks_encode hb ('\x7d'.toUInt8 :: rest) pos
    rw [blanks_of_not_blank (by decide)] at hblanks
    refine ⟨pos + b.length + 1, ?_⟩
    simp [members, hblanks, at?, advance]
  enter {first l} hl b hb fuel s bytes pos := by
    subst hb
    cases hl with
    | first ha =>
        have hblanks := blanks_encode ha ('"'.toUInt8 :: bytes) pos
        rw [blanks_of_not_blank (by decide)] at hblanks
        refine ⟨pos + l.length, ?_⟩
        have hne : '"'.toUInt8 ≠ '\x7d'.toUInt8 := by decide
        simp only [members, hblanks, at?]
        simp only [List.isEmpty_cons, List.head?_cons, Option.some_beq_some,
          beq_iff_eq, hne, Bool.not_true, Bool.false_and, Bool.false_eq_true,
          if_false, if_true]
        cases step s ⟨'"'.toUInt8 :: bytes, pos + l.length⟩ <;> rfl
    | @next w a hw ha =>
        have hcomma :=
          blanks_encode hw (','.toUInt8 :: (encode a ++ '"'.toUInt8 :: bytes))
            pos
        have hblanks :=
          blanks_encode ha ('"'.toUInt8 :: bytes) (pos + w.length + 1)
        rw [blanks_of_not_blank (by decide)] at hcomma hblanks
        refine ⟨pos + w.length + 1 + a.length, ?_⟩
        rw [encode_append, encode_cons_ascii (by decide), List.append_assoc,
          List.cons_append]
        have hne : ','.toUInt8 ≠ '\x7d'.toUInt8 := by decide
        simp only [members, hcomma, at?, advance, List.drop_succ_cons,
          List.drop_zero]
        simp only [List.isEmpty_cons, List.head?_cons, Option.some_beq_some,
          beq_iff_eq, hne, beq_self_eq_true, Bool.not_true, Bool.and_false,
          Bool.false_eq_true, if_false, if_true, hblanks]
        cases step s ⟨'"'.toUInt8 :: bytes, pos + w.length + 1 + a.length⟩
          <;> rfl

end PatternCheck.Json.Cursor
