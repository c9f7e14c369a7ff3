import Mathlib.Algebra.Group.Int.Defs
import WorkflowCompiler.Proofs.Decimal.Digits
import WorkflowCompiler.Json.Reader

/-!
Written integers are numerals: what is read from the text of an integer is its sign and its
digits, neither a fraction nor an exponent, and the text after it is left.
-/
namespace WorkflowCompiler.Json

theorem toList_toString_int (n : Int) : (toString n).toList =
    (if n < 0 then ['-'] else []) ++ Decimal.digitsOf n.natAbs := by
  rw [Int.toString_eq_repr, Int.repr_eq_if]
  by_cases negative : n < 0
  · have natAbs : (-n).toNat = n.natAbs := by omega
    rw [if_neg (by omega), if_pos negative, natAbs, String.toList_append, Nat.toList_repr]
    rfl
  · have natAbs : n.toNat = n.natAbs := by omega
    rw [if_pos (by omega), if_neg negative, natAbs, Nat.toList_repr]
    rfl

theorem toString_head (n : Int) :
    ∃ c cs, (toString n).toList = c :: cs ∧ (c = '-' ∨ c.isDigit = true) := by
  rw [toList_toString_int]
  obtain ⟨c, cs, hdigits⟩ := List.exists_cons_of_ne_nil (Decimal.digitsOf_ne_nil n.natAbs)
  by_cases negative : n < 0
  · exact ⟨'-', _, by rw [if_pos negative]; rfl, Or.inl rfl⟩
  · refine ⟨c, cs, by rw [if_neg negative, hdigits]; rfl, Or.inr ?_⟩
    exact Decimal.isDigit_of_mem_digitsOf (hdigits ▸ List.mem_cons_self)

/-- Digits are read as far as they go. -/
theorem digits_append {found rest : List Char} (nonempty : found ≠ [])
    (all : ∀ c ∈ found, isDigit c = true) (stop : ∀ c ∈ rest.head?, isDigit c = false) :
    digits (found ++ rest) = .ok (found.map digitValue, rest) := by
  have none : rest.takeWhile isDigit = [] ∧ rest.dropWhile isDigit = rest := by
    cases rest with
    | nil => exact ⟨rfl, rfl⟩
    | cons c rest =>
      have := stop c (by simp)
      exact ⟨List.takeWhile_cons_of_neg (by simp [this]),
        List.dropWhile_cons_of_neg (by simp [this])⟩
  have taken : (found ++ rest).takeWhile isDigit = found := by
    rw [List.takeWhile_append_of_pos all, none.1, List.append_nil]
  have left : (found ++ rest).dropWhile isDigit = rest := by
    rw [List.dropWhile_append_of_pos all, none.2]
  unfold digits
  rw [taken, left]
  cases found with
  | nil => exact absurd rfl nonempty
  | cons c found => rfl

theorem wholePart_digitsOf (n : Nat) {rest : List Char}
    (stop : ∀ c ∈ rest.head?, isDigit c = false) :
    wholePart (Decimal.digitsOf n ++ rest) = .ok ((Decimal.digitsOf n).map digitValue, rest) := by
  rcases Nat.eq_zero_or_pos n with rfl | positive
  · cases rest with
    | nil => rfl
    | cons c rest =>
      have := stop c (by simp)
      simp [Decimal.digitsOf, Nat.toDigits_zero, wholePart, this]
      rfl
  · obtain ⟨c, others, hdigits⟩ := List.exists_cons_of_ne_nil (Decimal.digitsOf_ne_nil n)
    have first : c ≠ '0' := Decimal.digitsOf_head positive c (by simp [hdigits])
    rw [← digits_append (Decimal.digitsOf_ne_nil n)
      (fun c hc => Decimal.isDigit_of_mem_digitsOf hc) stop, hdigits, List.cons_append, wholePart]
    rintro rest ⟨⟩
    exact first rfl

theorem ofDigits_digitsOf (n : Nat) : ofDigits ((Decimal.digitsOf n).map digitValue) = n := by
  rw [ofDigits, List.foldl_map]
  refine Eq.trans ?_ (Decimal.ofDigitChars_digitsOf n)
  simp [Nat.ofDigitChars_eq_foldl, digitValue, Nat.mul_comm]

theorem sign_toString (n : Int) (rest : List Char) : sign ((toString n).toList ++ rest) =
    (decide (n < 0), Decimal.digitsOf n.natAbs ++ rest) := by
  rw [toList_toString_int]
  by_cases negative : n < 0
  · rw [if_pos negative, decide_eq_true negative]
    rfl
  · rw [if_neg negative, decide_eq_false negative, List.nil_append]
    obtain ⟨c, others, hdigits⟩ := List.exists_cons_of_ne_nil (Decimal.digitsOf_ne_nil n.natAbs)
    have digit : c.isDigit = true :=
      Decimal.isDigit_of_mem_digitsOf (hdigits ▸ List.mem_cons_self)
    rw [hdigits, List.cons_append, sign]
    rintro rest ⟨⟩
    exact absurd digit (by decide)

/-- What is read from the text of an integer before something that does not go on with it. -/
theorem numeral_toString (n : Int) {rest : List Char}
    (stop : ∀ c ∈ rest.head?, isDigit c = false ∧ c ≠ '.' ∧ c ≠ 'e' ∧ c ≠ 'E') :
    numeral ((toString n).toList ++ rest) =
      .ok (⟨decide (n < 0), (Decimal.digitsOf n.natAbs).map digitValue, [], 0, true⟩, rest) := by
  have whole := wholePart_digitsOf n.natAbs fun c hc => (stop c hc).1
  have fraction : fractionPart rest = .ok (none, rest) := by
    cases rest with
    | nil => rfl
    | cons c rest =>
      rw [fractionPart]
      rintro rest ⟨⟩
      exact (stop _ rfl).2.1 rfl
  have exponent : exponentPart rest = .ok (none, rest) := by
    cases rest with
    | nil => rfl
    | cons c rest => exact if_neg (by simp [stop c rfl])
  simp only [numeral, sign_toString, whole, fraction, exponent, bind, Except.bind]
  rfl

/-- Reading on never makes a significand less. -/
theorem le_foldl_digits (ds : List Nat) (significand : Nat) :
    significand ≤ ds.foldl (fun n d => n * 10 + d) significand := by
  induction ds generalizing significand with
  | nil => exact Nat.le_refl _
  | cons d ds ih =>
    have := ih (significand * 10 + d)
    rw [List.foldl_cons]
    omega

/-- Digits of a number in bounds are all absorbed. -/
theorem absorb_eq {ds : List Nat} {significand : Nat}
    (inBounds : ds.foldl (fun n d => n * 10 + d) significand < significandBound) :
    absorb significand ds = (ds.foldl (fun n d => n * 10 + d) significand, []) := by
  induction ds generalizing significand with
  | nil => rfl
  | cons d ds ih =>
    have more := le_foldl_digits ds (significand * 10 + d)
    rw [List.foldl_cons] at inBounds
    rw [absorb, if_pos (by omega), ih inBounds, List.foldl_cons]

/-- Integers that a document can hold exactly: those of 64 bits, with a sign or without. -/
def Exact (n : Int) : Prop := -2 ^ 63 ≤ n ∧ n < 2 ^ 64

/-- An integer of 64 bits is read as itself. -/
theorem number_toString {n : Int} (exact : Exact n) {rest : List Char}
    (stop : ∀ c ∈ rest.head?, isDigit c = false ∧ c ≠ '.' ∧ c ≠ 'e' ∧ c ≠ 'E') :
    number ((toString n).toList ++ rest) = .ok (.integer n, rest) := by
  obtain ⟨least, greatest⟩ := exact
  have bound : significandBound = 2 ^ 64 := rfl
  have value : ((Decimal.digitsOf n.natAbs).map digitValue).foldl (fun n d => n * 10 + d) 0 =
      n.natAbs := ofDigits_digitsOf n.natAbs
  have absorbed : absorb 0 ((Decimal.digitsOf n.natAbs).map digitValue) = (n.natAbs, []) := by
    rw [absorb_eq (by omega), value]
  have found : Numeral.value? ⟨decide (n < 0), (Decimal.digitsOf n.natAbs).map digitValue, [], 0,
      true⟩ = some (.integer n) := by
    by_cases negative : n < 0
    · have places : n.natAbs ≠ 0 ∧ n.natAbs ≤ Nat.pow 2 63 := by
        have : Nat.pow 2 63 = 2 ^ 63 := rfl
        omega
      have back : -(n.natAbs : Int) = n := by omega
      simp only [Numeral.value?, absorbed, negative, decide_true, Bool.not_true,
        Bool.false_eq_true, and_false, ↓reduceIte, places, Nat.pow_eq, ne_eq, not_false_eq_true,
        and_self, back]
    · have back : (n.natAbs : Int) = n := by omega
      simp [Numeral.value?, absorbed, negative, back]
  simp only [number, numeral_toString n stop, bind, Except.bind, found]

end WorkflowCompiler.Json
