import PatternCheck.Proofs.Json.Followed
import Mathlib.Data.List.TakeWhile

/-
Documents with more bytes at the end of the text. Lists and objects end with
a bracket and are read the same whatever stands behind it, so an object that
takes up a whole text is still read from a longer one, and nothing less than
all of it is a document: a value in a part of the text would be read from the
whole text, too, and it would leave something.
-/

namespace PatternCheck.Json.Cursor

variable {α σ : Type} {c d : Cursor} {more : List UInt8}

-- ==================================================== lists and objects

/-- A reader that gives the same with more bytes at the end of the text, if
some bytes are left. -/
def SteadyReader (more : List UInt8) (read : Cursor → Reading α) : Prop :=
  ∀ c, Steady more c (read c) (read (c.followedBy more))

/-- A loop that gives the same with more bytes at the end of the text. With
more bytes there may be more steps. -/
def ClosedLoop (more : List UInt8) (loop : Nat → Bool → Step σ) : Prop :=
  ∀ fuel first s c fuel', fuel ≤ fuel' →
    Closed more c (loop fuel first s c)
    (loop fuel' first s (c.followedBy more))

variable {step : Step σ}

/-- Blanks behind the next byte are passed over in the same way, if they are
not the last bytes. -/
theorem blanks_behind_followedBy (b : UInt8) (rest : List UInt8) (pos : Nat)
    (more : List UInt8) :
    ∃ d, (advance ⟨b :: rest, pos⟩ 1).blanks = d ∧ d.rest <:+ b :: rest ∧
      (d.rest ≠ [] → ((followedBy ⟨b :: rest, pos⟩ more).advance 1).blanks
        = d.followedBy more) := by
  obtain ⟨d, hd, hsuffix, hmore⟩ := blanks_followedBy ⟨rest, pos + 1⟩ more
  exact ⟨d, hd, hsuffix.trans (List.suffix_cons b rest), hmore⟩

/-- A list is over with its bracket, whatever follows it. -/
theorem items_closed (m : Manner) (h : ∀ s, SteadyReader more (step s)) :
    ClosedLoop more (items m step) := by
  intro fuel
  induction fuel with
  | zero => exact fun first s c fuel' _ => .error
  | succ fuel ih =>
      intro first s c fuel' hfuel
      obtain ⟨fuel', rfl⟩ : ∃ n, fuel' = n + 1 := ⟨fuel' - 1, by omega⟩
      obtain ⟨d, hd, hsuffix, hmore⟩ := blanks_followedBy c more
      rw [items, hd]
      refine .behind hsuffix ?_ fun hne => by rw [items, hmore hne]
      obtain ⟨_ | ⟨b, rest⟩, pos⟩ := d
      · exact .error
      refine .ite .error (.ite (.next _ _ _ _) (.ite ?_ (.ite ?_ .error)))
      -- an item is read at two places: at the head and after a comma
      rotate_left
      obtain ⟨d, hd, hsuffix, hmore⟩ :=
        blanks_behind_followedBy b rest pos more
      rw [hd]
      refine .behind hsuffix ?_ fun hne => by rw [hmore hne]
      obtain ⟨_ | ⟨b, rest⟩, pos⟩ := d
      · exact .error
      refine .ite .error (.ite .error ?_)
      all_goals
        split
        · exact .error
        next s' e hstep =>
          obtain ⟨hsuffix, hmore⟩ := h s _ s' e hstep
          exact .behind hsuffix (ih false s' e fuel' (by omega)) fun hne => by
            rw [hmore hne]

/-- An object is over with its brace. -/
theorem members_closed (m : Manner) (h : ∀ s, SteadyReader more (step s)) :
    ClosedLoop more (members m step) := by
  intro fuel
  induction fuel with
  | zero => exact fun first s c fuel' _ => .error
  | succ fuel ih =>
      intro first s c fuel' hfuel
      obtain ⟨fuel', rfl⟩ : ∃ n, fuel' = n + 1 := ⟨fuel' - 1, by omega⟩
      obtain ⟨d, hd, hsuffix, hmore⟩ := blanks_followedBy c more
      rw [members, hd]
      refine .behind hsuffix ?_ fun hne => by rw [members, hmore hne]
      obtain ⟨_ | ⟨b, rest⟩, pos⟩ := d
      · exact .error
      refine .ite .error (.ite (.next _ _ _ _) (.ite .error ?_))
      obtain ⟨d, hd, hsuffix, hmore⟩ : ∃ d,
          (if first then
            ⟨b :: rest, pos⟩ else (advance ⟨b :: rest, pos⟩ 1).blanks) = d ∧
          d.rest <:+ b :: rest ∧ (d.rest ≠ [] →
            (if first then followedBy ⟨b :: rest, pos⟩ more
              else ((followedBy ⟨b :: rest, pos⟩ more).advance 1).blanks)
                = d.followedBy more) := by
        cases first with
        | true => exact ⟨_, rfl, List.suffix_refl _, fun _ => rfl⟩
        | false => exact blanks_behind_followedBy b rest pos more
      rw [hd]
      refine .behind hsuffix ?_ fun hne => by rw [hmore hne]
      obtain ⟨_ | ⟨b, rest⟩, pos⟩ := d
      · exact .error
      refine .ite .error (.ite ?_ (.ite .error .error))
      split
      · exact .error
      next s' e hstep =>
        obtain ⟨hsuffix, hmore⟩ := h s _ s' e hstep
        exact .behind hsuffix (ih false s' e fuel' (by omega)) fun hne => by
          rw [hmore hne]

/-- A colon is not the last thing to be read, and what stands behind it is
left. -/
theorem colon_followedBy (h : c.colon = .ok d) (more : List UInt8) :
    d.rest <:+ c.rest ∧ (c.followedBy more).colon
      = .ok (d.followedBy more) := by
  obtain ⟨e, he, hsuffix, hmore⟩ := blanks_followedBy c more
  rw [colon, he] at h
  obtain ⟨_ | ⟨b, rest⟩, pos⟩ := e
  · cases h
  rw [colon, hmore (List.cons_ne_nil _ _)]
  by_cases hb : at? ⟨b :: rest, pos⟩ ':' = true
  · obtain rfl : ⟨rest, pos + 1⟩ = d :=
      Except.ok.inj ((if_pos hb).symm.trans h)
    exact ⟨(List.suffix_cons b rest).trans hsuffix, if_pos hb⟩
  · exact nomatch (if_neg hb).symm.trans h

-- =============================================================== values

variable {nested value : Cursor → Reading Value}

/-- The key of a member, and its value behind the colon. -/
theorem member_steady (h : SteadyReader more value)
    (acc : List (String × Value)) :
    SteadyReader more (member string (fun key acc c => do
      let c ← c.colon
      (value c).map fun (v, c) => ((key, v) :: acc, c)) acc) := by
  intro c
  obtain ⟨d, hd, hsuffix, hmore⟩ := advance_one_followedBy c more
  rw [member, hd]
  refine .behind hsuffix ?_ fun hne => by rw [member, hmore hne]
  refine (string_closed d).steady.bind fun key c => ?_
  dsimp only
  cases hcolon : c.colon with
  | error p => exact .error
  | ok d =>
      obtain ⟨hsuffix, hmore⟩ := colon_followedBy hcolon more
      have hvalue := (h d).map fun v => (key, v) :: acc
      exact .behind hsuffix hvalue fun _ => by rw [hmore]; rfl

theorem nestedOf_closed (h : SteadyReader more value) (c : Cursor) :
    Closed more c (nestedOf value c) (nestedOf value (c.followedBy more)) := by
  obtain ⟨_ | ⟨b, rest⟩, pos⟩ := c
  · exact .error
  have hlength : (b :: rest).length ≤ (b :: (rest ++ more)).length := by simp
  have hitems :=
    items_closed .attentive (fun acc c => (h c).map (· :: acc)) _ true []
      ⟨rest, pos + 1⟩ _ hlength
  have hmembers :=
    members_closed .attentive (member_steady h) _ true [] ⟨rest, pos + 1⟩
      _ hlength
  refine .ite ?_ ?_
  · exact .behind (List.suffix_cons b rest)
      (hitems.map fun acc => Value.array acc.reverse)
      fun _ => rfl
  · exact .behind (List.suffix_cons b rest)
      (hmembers.map fun acc => Value.object acc.reverse)
      fun _ => rfl

/-- A value that is read by its first byte is the same if the text goes on. -/
theorem scalarOr_steady (h : SteadyReader more nested) :
    SteadyReader more (scalarOr nested) := by
  intro c
  obtain ⟨d, hd, hsuffix, hmore⟩ := blanks_followedBy c more
  rw [scalarOr, hd]
  refine .behind hsuffix ?_ fun hne => by rw [scalarOr, hmore hne]
  obtain ⟨_ | ⟨b, rest⟩, pos⟩ := d
  · exact .error
  refine .ite (literal_steady _ _ _)
    (.ite (literal_steady _ _ _) (.ite (literal_steady _ _ _) ?_))
  refine .ite ((number_steady _).map _) (.ite ?_ (.ite (h _) .error))
  exact .behind (List.suffix_cons b rest)
    ((string_closed ⟨rest, pos + 1⟩).steady.map _) fun _ => rfl

/-- So is any value, however deep. -/
theorem value_steady (depth : Nat) :
    SteadyReader more (Cursor.value depth) := by
  induction depth with
  | zero => exact scalarOr_steady fun c => .error
  | succ depth ih =>
      exact scalarOr_steady fun c => (nestedOf_closed ih c).steady

/-- If anything but blanks comes next, it is a list or an object. -/
def Opens (c : Cursor) : Prop :=
  ∀ b ∈ c.blanks.rest.head?, b = '['.toUInt8 ∨ b = '\x7b'.toUInt8

theorem Opens.of_followedBy (h : Opens (c.followedBy more)) : Opens c := by
  intro b hb
  obtain ⟨d, hd, -, hmore⟩ := blanks_followedBy c more
  rw [hd] at hb
  obtain ⟨_ | ⟨b', rest⟩, pos⟩ := d
  · cases hb
  cases hb
  refine h b ?_
  rw [hmore (List.cons_ne_nil _ _)]
  rfl

/-- Only what stands in braces is an object. -/
theorem scalarOr_opens {members : List (String × Value)}
    (h : scalarOr nested c = .ok (.object members, d)) : Opens c := by
  intro b hb
  rw [scalarOr] at h
  generalize c.blanks = c at h hb
  obtain ⟨_ | ⟨b', rest⟩, pos⟩ := c
  · cases hb
  cases hb
  have scalar {β : Type} {f : β → Value × Cursor} {r : Except Problem β}
      (hf : ∀ x, (f x).1 ≠ .object members) : r.map f
        ≠ .ok (.object members, d) := by
    intro hr
    cases r with
    | error p => cases hr
    | ok x => exact hf x (congrArg (·.1) (Except.ok.inj hr))
  dsimp only at h
  iterate 5
    split at h
    · exact absurd h (scalar nofun)
  split at h
  · next hb => simpa using hb
  · cases h

theorem scalarOr_closed
    (h : ∀ c, Closed more c (nested c) (nested (c.followedBy more)))
    (hopens : Opens c) :
    Closed more c (scalarOr nested c)
      (scalarOr nested (c.followedBy more)) := by
  obtain ⟨d, hd, hsuffix, hmore⟩ := blanks_followedBy c more
  rw [Opens, hd] at hopens
  rw [scalarOr, hd]
  refine .behind hsuffix ?_ fun hne => by rw [scalarOr, hmore hne]
  obtain ⟨_ | ⟨b, rest⟩, pos⟩ := d
  · exact .error
  rcases hopens b rfl with rfl | rfl
  · exact h ⟨_, pos⟩
  · exact h ⟨_, pos⟩

/-- A list or an object is the same with more bytes at the end of the text. -/
theorem value_closed (depth : Nat) (hopens : Opens c) :
    Closed more c (Cursor.value depth c)
      (Cursor.value depth (c.followedBy more)) := by
  cases depth with
  | zero => exact scalarOr_closed (fun c => .error) hopens
  | succ depth =>
      exact scalarOr_closed (nestedOf_closed (value_steady depth)) hopens

/-- A value that is an object begins with a brace, behind blanks. -/
theorem value_opens {depth : Nat} {members : List (String × Value)}
    (h : Cursor.value depth c = .ok (.object members, d)) : Opens c := by
  cases depth with
  | zero => exact scalarOr_opens h
  | succ depth => exact scalarOr_opens h

-- ===================================================== whole documents

/-- Only blanks are left. -/
def Spent (rest : List UInt8) : Prop := ∀ b ∈ rest, isBlank b = true

theorem finish_of_spent (h : Spent c.rest) : c.finish = .ok () :=
  if_pos (List.isEmpty_iff.2 (List.dropWhile_eq_nil_iff.2 h))

/-- Only blanks may be left at the end. -/
theorem spent_of_finish (h : c.finish = .ok ()) : Spent c.rest := by
  by_cases hrest : c.blanks.rest.isEmpty = true
  · exact List.dropWhile_eq_nil_iff.1 (List.isEmpty_iff.1 hrest)
  · exact nomatch (if_neg hrest).symm.trans h

/-- Bytes are a document if a value is read from them and only blanks are
left. -/
theorem ofBytes_eq_ok {bytes : List UInt8} {v : Value} :
    Value.ofBytes bytes = .ok v ↔
      ∃ d, Cursor.value greatestDepth (start bytes) = .ok (v, d)
        ∧ Spent d.rest := by
  rw [Value.ofBytes, whole]
  constructor
  · intro h
    rcases hread : Cursor.value greatestDepth (start bytes) with p | ⟨w, d⟩
    · rw [hread] at h
      cases h
    cases hfinish : d.finish with
    | error p =>
        simp only [hread, bind, Except.bind, hfinish] at h
        cases h
    | ok =>
        simp only [hread, bind, Except.bind, hfinish, pure, Except.pure] at h
        cases h
        exact ⟨d, rfl, spent_of_finish hfinish⟩
  · rintro ⟨d, hread, hspent⟩
    simp only [hread, bind, Except.bind, finish_of_spent hspent, pure,
      Except.pure]

/-- What is left of some bytes has the same last byte, if it has one. -/
theorem last_mem_of_suffix {rest bytes : List UInt8} {b : UInt8}
    (h : rest <:+ bytes) (hrest : rest ≠ [])
    (hlast : bytes.getLast? = some b) : b ∈ rest := by
  obtain ⟨before, rfl⟩ := h
  rw [List.getLast?_append, List.getLast?_eq_some_getLast hrest,
    Option.some_or] at hlast
  cases hlast
  exact List.getLast_mem hrest

section Object

variable {bytes : List UInt8} {members : List (String × Value)}
  (h : Value.ofBytes bytes = .ok (.object members))
  (hlast : bytes.getLast? = some '\x7d'.toUInt8)

include h hlast

/-- Of an object with nothing behind it everything is read, whatever is put
there. -/
theorem value_object_append (more : List UInt8) :
    ∃ d, Cursor.value greatestDepth (start (bytes ++ more))
      = .ok (.object members, d)
      ∧ d.rest = more := by
  obtain ⟨d, hread, hspent⟩ := ofBytes_eq_ok.1 h
  obtain ⟨-, hsuffix, hmore⟩ :=
    value_closed greatestDepth (value_opens hread) _ _ hread
  have hrest : d.rest = [] := by
    by_cases hne : d.rest = []
    · exact hne
    · exact absurd (hspent _ (last_mem_of_suffix hsuffix hne hlast))
        (by decide)
  refine ⟨_, hmore, ?_⟩
  rw [followedBy, hrest, List.nil_append]

/-- Blanks behind an object do not count. -/
theorem ofBytes_object_blank {more : List UInt8} (hmore : Spent more) :
    Value.ofBytes (bytes ++ more) = .ok (.object members) := by
  obtain ⟨d, hread, hrest⟩ := value_object_append h hlast more
  exact ofBytes_eq_ok.2 ⟨d, hread, hrest ▸ hmore⟩

/-- Nothing else may stand behind an object. -/
theorem ofBytes_object_trailing {more : List UInt8} (hmore : ¬ Spent more) :
    ∃ p, Value.ofBytes (bytes ++ more) = .error p := by
  obtain ⟨d, hread, hrest⟩ := value_object_append h hlast more
  cases hvalue : Value.ofBytes (bytes ++ more) with
  | error p => exact ⟨p, rfl⟩
  | ok v =>
      obtain ⟨e, hread', hspent⟩ := ofBytes_eq_ok.1 hvalue
      cases hread.symm.trans hread'
      exact absurd (hrest ▸ hspent) hmore

/-- An object that breaks off is no document: a value in what there is of it
would be the whole object, and leave the rest of it to be read. -/
theorem ofBytes_object_cut {cut : List UInt8} (hcut : cut <+: bytes)
    (hne : cut ≠ bytes) : ∃ p, Value.ofBytes cut = .error p := by
  obtain ⟨d, hread, hrest⟩ := value_object_append h hlast []
  rw [List.append_nil] at hread
  obtain ⟨more, rfl⟩ := hcut
  have hmore : more ≠ [] := fun hnil => hne (by rw [hnil, List.append_nil])
  cases hvalue : Value.ofBytes cut with
  | error p => exact ⟨p, rfl⟩
  | ok v =>
      obtain ⟨e, hread', -⟩ := ofBytes_eq_ok.1 hvalue
      have hopens : Opens ((start cut).followedBy more) := value_opens hread
      obtain ⟨-, -, hwhole⟩ :=
        value_closed greatestDepth hopens.of_followedBy _ _ hread'
      cases hread.symm.trans hwhole
      exact absurd (List.append_eq_nil_iff.1 hrest).2 hmore

end Object

end PatternCheck.Json.Cursor
