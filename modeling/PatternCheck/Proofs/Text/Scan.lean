import PatternCheck.Text.Scan

/-
What scanners take. A scanner is a function of the characters that are
left, so what is said of one is an equation about its value there; these
are the equations of the ways to put scanners together, each with one for
the case that the part fails.
-/

namespace PatternCheck.Text.Scan

variable {α β : Type} {s t : Scan α} {cs rest : List Char} {a : α}

-- ============================================================== sequences

@[simp] theorem pure_apply (a : α) (cs : List Char) :
    (pure a : Scan α) cs = some (a, cs) := rfl

/-- One scanner after the other. -/
theorem bind_apply (s : Scan α) (f : α → Scan β) (cs : List Char) :
    (s >>= f) cs = (s cs).bind fun x => f x.1 x.2 := by
  show StateT.bind s f cs = _
  rw [StateT.bind]
  cases s cs <;> rfl

/-- Something is read, and reading goes on with it after it. -/
theorem bind_of_some (h : s cs = some (a, rest)) (f : α → Scan β) :
    (s >>= f) cs = f a rest := by
  rw [bind_apply, h]
  rfl

/-- Where something cannot be read, nothing after it is. -/
theorem bind_of_none (h : s cs = none) (f : α → Scan β) :
    (s >>= f) cs = none := by
  rw [bind_apply, h]
  rfl

-- =========================================================== alternatives

/-- The second way is not tried where the first one leads somewhere. -/
theorem orElse_of_some {x : α × List Char} (h : s cs = some x) :
    (s <|> t) cs = some x := by
  show (s cs <|> t cs) = some x
  rw [h]
  rfl

/-- It is tried from the beginning where the first one does not. -/
theorem orElse_of_none (h : s cs = none) : (s <|> t) cs = t cs := by
  show (s cs <|> t cs) = t cs
  rw [h]
  rfl

/-- Something that may be missing is there. -/
theorem maybe_of_some (h : s cs = some (a, rest)) :
    maybe s cs = some (some a, rest) := by
  rw [maybe, h]

/-- Something that may be missing is missing, and nothing was read. -/
theorem maybe_of_none (h : s cs = none) : maybe s cs = some (none, cs) := by
  rw [maybe, h]

-- ============================================================= characters

@[simp] theorem char_cons (c : Char) (cs : List Char) :
    char c (c :: cs) = some ((), cs) := by
  simp [char, one]

theorem char_of_ne {c : Char} (h : cs.head? ≠ some c) : char c cs = none := by
  cases cs with
  | nil => rfl
  | cons x cs =>
      have hx : x ≠ c := by simpa using h
      simp [char, one, hx]

/-- A run of characters is taken up to the first one that does not belong
to it. -/
theorem someSpan_append {p : Char → Bool} {ds : List Char} (hds : ds ≠ [])
    (h : ∀ c ∈ ds, p c = true) (hrest : ∀ c ∈ rest.head?, p c = false) :
    someSpan p (ds ++ rest) = some (ds, rest) := by
  have hhead : (ds ++ rest).head?.any p = true := by
    obtain ⟨d, ds, rfl⟩ := List.exists_cons_of_ne_nil hds
    simpa using h d (by simp)
  have htake : rest.takeWhile p = [] ∧ rest.dropWhile p = rest := by
    cases rest with
    | nil => exact ⟨rfl, rfl⟩
    | cons c rest =>
        have hc : p c = false := hrest c rfl
        exact ⟨List.takeWhile_cons_of_neg (by simp [hc]),
          List.dropWhile_cons_of_neg (by simp [hc])⟩
  rw [someSpan, if_pos hhead, span, List.takeWhile_append_of_pos h,
    List.dropWhile_append_of_pos h, htake.1, htake.2, List.append_nil]

/-- A run is not empty: its first character has to be one of those. -/
theorem someSpan_of_not {p : Char → Bool} (h : ∀ c ∈ cs.head?, p c = false) :
    someSpan p cs = none := by
  have hhead : ¬ cs.head?.any p = true := by
    cases cs with
    | nil => simp
    | cons c cs => simp [h c rfl]
  rw [someSpan, if_neg hhead]

/-- A text is taken where it begins what is left. -/
theorem exactly_append (text : String) (rest : List Char) :
    exactly text (text.toList ++ rest) = some ((), rest) := by
  have hprefix : text.toList.isPrefixOf (text.toList ++ rest) = true :=
    List.isPrefixOf_iff_prefix.2 (List.prefix_append _ _)
  rw [exactly, if_pos hprefix, List.drop_left]

/-- What is read up to the end has been read as a whole. -/
theorem whole_of_some (h : s cs = some (a, [])) : whole s cs = some a := by
  rw [whole, h]

-- ============================================================ what is read

/-- Whether everything that a scanner can read has a property. -/
def Yields {α : Type} (p : α → Prop) (s : Scan α) : Prop :=
  ∀ cs a rest, s cs = some (a, rest) → p a

namespace Yields

variable {α β : Type} {p : α → Prop} {q : β → Prop} {s : Scan α}

theorem pure {a : α} (h : p a) : Yields p (pure a : Scan α) := by
  intro cs b rest hread
  cases hread
  exact h

theorem failure : Yields p (failure : Scan α) := by
  intro cs a rest hread
  cases hread

/-- What is read after something good is judged by what that was. -/
theorem bind (hs : Yields p s) {f : α → Scan β}
    (hf : ∀ a, p a → Yields q (f a)) : Yields q (s >>= f) := by
  intro cs b rest hread
  rw [bind_apply] at hread
  obtain ⟨⟨a, after⟩, hfirst, hthen⟩ := Option.bind_eq_some_iff.1 hread
  exact hf a (hs cs a after hfirst) after b rest hthen

/-- What is read first may not matter. -/
theorem after (s : Scan α) {f : α → Scan β} (hf : ∀ a, Yields q (f a)) :
    Yields q (s >>= f) :=
  bind (p := fun _ => True) (fun _ _ _ _ => trivial) fun a _ => hf a

/-- The whole of a text is what was read of it. -/
theorem whole (hs : Yields p s) {cs : List Char} {a : α}
    (h : Scan.whole s cs = some a) : p a := by
  rw [Scan.whole] at h
  split at h
  · next hread =>
    cases h
    exact hs _ _ _ hread
  · cases h

end Yields

end PatternCheck.Text.Scan
