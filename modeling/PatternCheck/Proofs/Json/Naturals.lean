import PatternCheck.Proofs.Decimal.Digits
import PatternCheck.Proofs.Json.Writing

/-
Natural numbers, as they are written. What is written of one are its
digits, and as long as it can be held exactly the reader takes them all
in: the significand grows digit by digit and never passes the whole
(`gather_of_le`).
-/

namespace PatternCheck.Json

-- ============================================================ significands

/-- A significand with more digits after it. -/
def withDigits (significand : Nat) (ds : List Nat) : Nat :=
  ds.foldl (fun s d => s * 10 + d) significand

theorem le_withDigits (ds : List Nat) : ∀ s : Nat, s ≤ withDigits s ds := by
  induction ds with
  | nil => exact fun s => Nat.le_refl s
  | cons d ds ih =>
      intro s
      have hmore := ih (s * 10 + d)
      rw [withDigits, List.foldl_cons, ← withDigits]
      omega

/-- All digits are taken where the whole can be held. -/
theorem Cursor.gather_of_le (ds : List Nat) :
    ∀ s : Nat, withDigits s ds ≤ Number.greatest →
      gather s ds = (withDigits s ds, ds.length) := by
  induction ds with
  | nil => exact fun s _ => rfl
  | cons d ds ih =>
      intro s h
      rw [withDigits, List.foldl_cons, ← withDigits] at h ⊢
      have hlonger : s * 10 + d ≤ Number.greatest :=
        Nat.le_trans (le_withDigits ds _) h
      rw [gather, if_pos hlonger, ih _ h, List.length_cons]

-- ================================================================= digits

/-- The digits of a number, with their values. -/
theorem digits_of_natural (n : Nat) :
    ∃ ds : List (Fin 10), digitChars ds = Nat.toDigits 10 n
    ∧ withDigits 0 (digitValues ds) = n := by
  induction n using Nat.strongRecOn with
  | ind n ih =>
      by_cases hn : n < 10
      · exact ⟨[⟨n, hn⟩],
          (Nat.toDigits_of_lt_base hn).symm, by simp [withDigits, digitValues]⟩
      · obtain ⟨ds, hchars, hvalue⟩ := ih (n / 10) (by omega)
        refine ⟨ds ++ [⟨n % 10, Nat.mod_lt n (by decide)⟩], ?_, ?_⟩
        · rw [Nat.toDigits_of_base_le (by decide) (by omega), ← hchars,
            digitChars, digitChars, List.map_append]
          rfl
        · rw [withDigits, digitValues] at hvalue ⊢
          rw [List.map_append, List.foldl_append, hvalue]
          simp only [List.map_cons, List.map_nil, List.foldl_cons,
            List.foldl_nil]
          omega

/-- A natural number that can be held exactly is written as a text of it. -/
theorem natural_spelled {n : Nat} (hn : n < UInt64.size) :
    (Number.natural n).IsSpelled := by
  obtain ⟨ds, hchars, hvalue⟩ := digits_of_natural n
  have hne : ds ≠ [] := by
    rintro rfl
    exact Nat.toDigits_ne_nil hchars.symm
  have hplain : ds.head? = some 0 → ds = [0] := by
    intro hhead
    have hzero := Decimal.toDigits_plain (show 1 < 10 by decide) (by decide) n
    rw [← hchars] at hzero
    obtain ⟨d, ds, rfl⟩ := List.exists_cons_of_ne_nil hne
    cases hhead
    cases ds with
    | nil => rfl
    | cons d ds => exact absurd ⟨rfl, by simp [digitChars]⟩ hzero
  have hgather : Cursor.gather 0 (digitValues ds) = (n, ds.length) := by
    have hgreatest : Number.greatest = UInt64.size - 1 := rfl
    rw [Cursor.gather_of_le _ _ (by omega), hvalue, digitValues,
      List.length_map]
  refine ⟨⟨false, ds, [], none, hne, hplain⟩, ?_, ?_⟩
  · have hnone : Cursor.gather n (digitValues []) = (n, 0) := rfl
    simp [Numeral.held?, hgather, hnone, Cursor.integer]
  · simp [Numeral.text, Numeral.fractionText, Numeral.powerText, Number.render,
      hchars, toString, Nat.toList_repr]

end PatternCheck.Json
