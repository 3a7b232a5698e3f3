import PatternCheck.Decimal.Digits

/-
Digits of numbers, in any base up to sixteen. The digits that a number is
written with are digits for the reader too, and have the value of the
number (`digitsValue_toDigits`); only zero begins with a zero.
-/

namespace PatternCheck.Decimal

variable {base : Nat}

/-- A digit is read as what it was written for. -/
theorem digit?_digitChar {d : Nat} (hd : d < base) (hbase : base ≤ 16) :
    digit? base (Nat.digitChar d) = some d := by
  have hall :
      ∀ d < 16, ∀ b ≤ 16, d < b → digit? b (Nat.digitChar d) = some d := by
    decide
  exact hall d (by omega) base hbase hd

theorem isDigit_of_mem_toDigits (hbase : 1 < base) (hbase' : base ≤ 16)
    {n : Nat} : ∀ c ∈ Nat.toDigits base n, isDigit base c = true := by
  induction n using Nat.strongRecOn with
  | ind n ih =>
      intro c hc
      by_cases hn : n < base
      · rw [Nat.toDigits_of_lt_base hn, List.mem_singleton] at hc
        rw [hc, isDigit, digit?_digitChar hn hbase']
        rfl
      · rw [Nat.toDigits_of_base_le hbase (by omega), List.mem_append,
          List.mem_singleton] at hc
        rcases hc with hc | rfl
        · exact ih (n / base) (Nat.div_lt_self (by omega) hbase) c hc
        · rw [isDigit, digit?_digitChar (Nat.mod_lt n (by omega)) hbase']
          rfl

/-- One digit more at the end. -/
theorem digitsValue_snoc {c : Char} {d : Nat} (h : digit? base c = some d)
    (ds : List Char) :
    digitsValue base (ds ++ [c]) = digitsValue base ds * base + d := by
  rw [digitsValue, digitsValue, List.filterMap_append, List.foldl_append]
  simp [h]

/-- The digits of a number have its value. -/
theorem digitsValue_toDigits (hbase : 1 < base) (hbase' : base ≤ 16)
    (n : Nat) : digitsValue base (Nat.toDigits base n) = n := by
  induction n using Nat.strongRecOn with
  | ind n ih =>
      by_cases hn : n < base
      · rw [Nat.toDigits_of_lt_base hn]
        have hsnoc := digitsValue_snoc (digit?_digitChar hn hbase') []
        simpa [digitsValue] using hsnoc
      · rw [Nat.toDigits_of_base_le hbase (by omega),
          digitsValue_snoc (digit?_digitChar (Nat.mod_lt n (by omega)) hbase'),
          ih (n / base) (Nat.div_lt_self (by omega) hbase), Nat.mul_comm]
        exact Nat.div_add_mod n base

/-- Only zero begins with a zero. -/
theorem head?_toDigits (hbase : 1 < base) (hbase' : base ≤ 16) {n : Nat}
    (hn : n ≠ 0) : (Nat.toDigits base n).head? ≠ some '0' := by
  have hchar : ∀ d < 16, d ≠ 0 → Nat.digitChar d ≠ '0' := by decide
  induction n using Nat.strongRecOn with
  | ind n ih =>
      by_cases hlt : n < base
      · rw [Nat.toDigits_of_lt_base hlt]
        simpa using hchar n (by omega) hn
      · have hdiv : n / base ≠ 0 := by
          have := Nat.div_pos (show base ≤ n by omega) (by omega)
          omega
        obtain ⟨d, ds, hds⟩ :=
          List.exists_cons_of_ne_nil
            (Nat.toDigits_ne_nil (n := n / base) (b := base))
        have hhead := ih (n / base) (Nat.div_lt_self (by omega) hbase) hdiv
        rw [hds] at hhead
        rw [Nat.toDigits_of_base_le hbase (by omega), hds]
        exact hhead

/-- A number has a zero before other digits in no case. -/
theorem toDigits_plain (hbase : 1 < base) (hbase' : base ≤ 16) (n : Nat) :
    ¬ ((Nat.toDigits base n).head? = some '0'
      ∧ 1 < (Nat.toDigits base n).length) := by
  rintro ⟨hhead, hlength⟩
  by_cases hn : n = 0
  · rw [hn, Nat.toDigits_of_lt_base (by omega)] at hlength
    exact absurd hlength (by simp)
  · exact head?_toDigits hbase hbase' hn hhead

end PatternCheck.Decimal
