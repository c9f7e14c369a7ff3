import WorkflowCompiler.Proofs.Decimal.Digits
import WorkflowCompiler.Proofs.Success
import WorkflowCompiler.Proofs.Text.Blank
import WorkflowCompiler.Workflow.StartDate

/-!
Canonical start dates. The numbers that a start date is read as are three to six and in bounds,
and writing such numbers and reading the text gives them back; so the canonical form of a start
date is its own canonical form.
-/
namespace WorkflowCompiler.Workflow.StartDate

structure Proper (numbers : List Nat) : Prop where
  atLeast : 3 ≤ numbers.length
  atMost : numbers.length ≤ 6
  inBounds : ∀ n ∈ numbers, n < bound

theorem toNat_of_isAsciiDigit {c : Char} (h : Text.isAsciiDigit c = true) :
    48 ≤ c.toNat ∧ c.toNat ≤ 57 := by
  simpa [Text.isAsciiDigit, Char.le_def, UInt32.le_iff_toNat_le] using h

theorem isBlank_eq_false_of_isAsciiDigit {c : Char} (h : Text.isAsciiDigit c = true) :
    Text.isBlank c = false := by
  have := toNat_of_isAsciiDigit h
  simp [Text.isBlank]
  omega

theorem isAsciiDigit_of_mem_digitsOf {n : Nat} :
    ∀ c ∈ Decimal.digitsOf n, Text.isAsciiDigit c = true :=
  fun _ hc => Decimal.isDigit_of_mem_digitsOf hc

/-- The value of a part is that of its digits, if these are all there is to it. -/
theorem partValue?_eq_some_iff {part : List Char} {n : Nat} :
    partValue? part = some n ↔ Text.trimmed part ≠ [] ∧
      (∀ c ∈ Text.trimmed part, Text.isAsciiDigit c = true) ∧
      Nat.ofDigitChars 10 (Text.trimmed part) 0 = n ∧ n < bound := by
  unfold partValue?
  simp only [Decimal.foldl_digits]
  split
  · next h =>
    simp only [reduceCtorEq, false_iff]
    rintro ⟨nonempty, digits, _⟩
    rcases h with h | h
    · exact nonempty h
    · rw [List.all_eq_true.mpr digits] at h
      cases h
  · next h =>
    obtain ⟨nonempty, digits⟩ := not_or.mp h
    have digits : ∀ c ∈ Text.trimmed part, Text.isAsciiDigit c = true := by simpa using digits
    split
    · next small =>
      rw [Option.some.injEq]
      exact ⟨fun h => ⟨nonempty, digits, h, h ▸ small⟩, fun h => h.2.2.1⟩
    · next great =>
      simp only [reduceCtorEq, false_iff]
      rintro ⟨_, _, rfl, small⟩
      exact great small

theorem partValue?_digitsOf {part : List Char} {n : Nat} (hn : n < bound)
    (digits : Text.trimmed part = Decimal.digitsOf n) : partValue? part = some n := by
  rw [partValue?_eq_some_iff, digits]
  exact ⟨Decimal.digitsOf_ne_nil n, isAsciiDigit_of_mem_digitsOf, Decimal.ofDigitChars_digitsOf n,
    hn⟩

theorem trimmed_digitsOf (n : Nat) : Text.trimmed (Decimal.digitsOf n) = Decimal.digitsOf n := by
  refine Text.trimmed_eq_self (fun c hc => ?_) (fun c hc => ?_)
  · exact isBlank_eq_false_of_isAsciiDigit
      (isAsciiDigit_of_mem_digitsOf c (List.mem_of_mem_head? hc))
  · exact isBlank_eq_false_of_isAsciiDigit
      (isAsciiDigit_of_mem_digitsOf c (List.mem_of_mem_getLast? hc))

theorem numbers?_eq_some_iff {s : List Char} {numbers : List Nat} :
    numbers? s = some numbers ↔
      List.Forall₂ (fun part n => partValue? part = some n)
        (Text.splitAtEach (· == ',') s) numbers ∧
      3 ≤ numbers.length ∧ numbers.length ≤ 6 := by
  unfold numbers?
  simp only [Option.bind_eq_bind, Option.bind_eq_some_iff, mapM_eq_some_iff]
  constructor
  · rintro ⟨found, hfound, h⟩
    split at h
    · next short => cases h; exact ⟨hfound, short⟩
    · cases h
  · rintro ⟨hfound, short⟩
    exact ⟨numbers, hfound, if_pos short⟩

/-- The numbers of a start date are proper. -/
theorem proper_of_numbers? {s : List Char} {numbers : List Nat} (h : numbers? s = some numbers) :
    Proper numbers := by
  obtain ⟨parts, atLeast, atMost⟩ := numbers?_eq_some_iff.mp h
  refine ⟨atLeast, atMost, fun n hn => ?_⟩
  generalize Text.splitAtEach (· == ',') s = pieces at parts
  clear h atLeast atMost
  induction parts with
  | nil => cases hn
  | cons first _ ih =>
    rcases List.mem_cons.mp hn with rfl | hn
    · exact (partValue?_eq_some_iff.mp first).2.2.2
    · exact ih hn

theorem write_cons_cons (n m : Nat) (numbers : List Nat) :
    write (n :: m :: numbers) = Decimal.digitsOf n ++ ',' :: ' ' :: write (m :: numbers) := by
  simp [write, List.intercalate_cons_cons]

/-- The parts of a written start date, each with the white space before it. -/
theorem parts_write {before : List Char} {numbers : List Nat} (nonempty : numbers ≠ [])
    (blank : before = [] ∨ before = [' ']) (inBounds : ∀ n ∈ numbers, n < bound) :
    List.Forall₂ (fun part n => partValue? part = some n)
      (Text.splitAtEach (· == ',') (before ++ write numbers)) numbers := by
  induction numbers generalizing before with
  | nil => exact absurd rfl nonempty
  | cons n numbers ih =>
    have noComma : ∀ c ∈ before ++ Decimal.digitsOf n, (c == ',') = false := by
      intro c hc
      rcases List.mem_append.mp hc with hc | hc
      · rcases blank with rfl | rfl
        · cases hc
        · rw [List.mem_singleton.mp hc]
          decide
      · have digit := isAsciiDigit_of_mem_digitsOf c hc
        rw [beq_eq_false_iff_ne]
        rintro rfl
        exact absurd digit (by decide)
    have value : partValue? (before ++ Decimal.digitsOf n) = some n := by
      refine partValue?_digitsOf (inBounds n List.mem_cons_self) ?_
      rcases blank with rfl | rfl
      · exact trimmed_digitsOf n
      · exact (Text.trimmed_cons_blank (by decide) _).trans (trimmed_digitsOf n)
    cases numbers with
    | nil =>
      have alone : write [n] = Decimal.digitsOf n := List.intercalate_singleton
      rw [alone, Text.splitAtEach_of_all_neg noComma]
      exact .cons value .nil
    | cons m numbers =>
      rw [write_cons_cons, ← List.append_assoc, Text.splitAtEach_append_cons noComma rfl]
      exact .cons value (ih (by simp) (Or.inr rfl) fun k hk =>
        inBounds k (List.mem_cons_of_mem n hk))

/-- Proper numbers are read back from what is written for them. -/
theorem numbers?_write {numbers : List Nat} (h : Proper numbers) :
    numbers? (write numbers) = some numbers := by
  have nonempty : numbers ≠ [] := by
    rintro rfl
    exact absurd h.atLeast (by decide)
  exact numbers?_eq_some_iff.mpr
    ⟨parts_write nonempty (Or.inl rfl) h.inBounds, h.atLeast, h.atMost⟩

theorem normalize_eq_ok_iff {s t : String} :
    normalize s = .ok t ↔
      ∃ numbers, numbers? s.toList = some numbers ∧ t = String.ofList (write numbers) := by
  unfold normalize
  split
  · next numbers found => simp [found, eq_comm]
  · next absent => simp [absent]

/-- A canonical start date is its own canonical form. -/
theorem normalize_normalize {s t : String} (h : normalize s = .ok t) : normalize t = .ok t := by
  obtain ⟨numbers, found, rfl⟩ := normalize_eq_ok_iff.mp h
  refine normalize_eq_ok_iff.mpr ⟨numbers, ?_, rfl⟩
  rw [String.toList_ofList]
  exact numbers?_write (proper_of_numbers? found)

end WorkflowCompiler.Workflow.StartDate
