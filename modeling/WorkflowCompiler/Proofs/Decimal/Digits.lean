import WorkflowCompiler.Decimal.Shortest

/-!
The decimal digits of a natural number. There is at least one, they denote the number, and only
zero begins with a zero.
-/
namespace WorkflowCompiler.Decimal

/-- Decimal digits, at least one, that denote the number; zeros may go before. -/
structure Spells (cs : List Char) (n : Nat) : Prop where
  nonempty : cs ≠ []
  digits : ∀ c ∈ cs, c.isDigit = true
  value : Nat.ofDigitChars 10 cs 0 = n

theorem Spells.unique {cs : List Char} {n m : Nat} (h : Spells cs n) (h' : Spells cs m) : n = m :=
  h.value.symm.trans h'.value

/-- Digits are read from the left, each making the number before it ten times as great. -/
theorem foldl_digits (cs : List Char) :
    cs.foldl (fun n c => n * 10 + (c.toNat - 48)) 0 = Nat.ofDigitChars 10 cs 0 := by
  simp [Nat.ofDigitChars_eq_foldl, Nat.mul_comm]

theorem digitsOf_ne_nil (n : Nat) : digitsOf n ≠ [] := Nat.toDigits_ne_nil

theorem isDigit_of_mem_digitsOf {n : Nat} {c : Char} (h : c ∈ digitsOf n) : c.isDigit = true :=
  Nat.isDigit_of_mem_toDigits (by decide) (by decide) h

theorem ofDigitChars_digitsOf (n : Nat) : Nat.ofDigitChars 10 (digitsOf n) 0 = n :=
  Nat.ofDigitChars_ten_toDigits

theorem spells_digitsOf (n : Nat) : Spells (digitsOf n) n :=
  ⟨digitsOf_ne_nil n, fun _ => isDigit_of_mem_digitsOf, ofDigitChars_digitsOf n⟩

/-- No leading zero is written: dropping the last digit leaves the digits of a tenth. -/
theorem digitsOf_head {n : Nat} (positive : 0 < n) : ∀ c ∈ (digitsOf n).head?, c ≠ '0' := by
  induction n using Nat.strongRecOn with
  | ind n ih =>
    rw [digitsOf, Nat.toDigits_eq_if (by decide)]
    by_cases small : n < 10
    · rw [if_pos small]
      rintro c ⟨⟩
      have table : ∀ d < 10, 0 < d → d.digitChar ≠ '0' := by decide
      exact table n small positive
    · rw [if_neg small, List.head?_append]
      intro c hc
      cases first : (digitsOf (n / 10)).head? with
      | none => exact absurd (List.head?_eq_none_iff.mp first) (digitsOf_ne_nil _)
      | some d =>
        rw [digitsOf] at first
        rw [first] at hc
        cases hc
        exact ih (n / 10) (by omega) (by omega) c (by rw [digitsOf, first]; rfl)

end WorkflowCompiler.Decimal
