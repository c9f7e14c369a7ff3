import WorkflowCompiler.Json.Reader
import WorkflowCompiler.Json.Writer

/-!
Quoted texts. Every character is written as something that can be printed and that is read back
as the character; only quotes, backslashes and control characters are escaped.
-/
namespace WorkflowCompiler.Json

def writtenEscapes : List (Char × Char) :=
  [('"', '"'), ('\\', '\\'), ('n', '\n'), ('r', '\r'), ('t', '\t'), ('b', '\x08'), ('f', '\x0c')]

/-- How each character is spelled inside quotes. -/
theorem escaped_cases (c : Char) :
    (∃ e, (e, c) ∈ writtenEscapes ∧ escaped c = ['\\', e]) ∨
    (c.toNat < 32 ∧ escaped c =
      ['\\', 'u', '0', '0', hexDigit (c.toNat / 16), hexDigit (c.toNat % 16)]) ∨
    (c ≠ '"' ∧ c ≠ '\\' ∧ 32 ≤ c.toNat ∧ escaped c = [c]) := by
  unfold escaped
  split
  · next h =>
    subst h
    exact Or.inl ⟨'"', by decide, rfl⟩
  next quote =>
  split
  · next h =>
    subst h
    exact Or.inl ⟨'\\', by decide, rfl⟩
  next backslash =>
  split
  · next h =>
    subst h
    exact Or.inl ⟨'n', by decide, rfl⟩
  split
  · next h =>
    subst h
    exact Or.inl ⟨'r', by decide, rfl⟩
  split
  · next h =>
    subst h
    exact Or.inl ⟨'t', by decide, rfl⟩
  split
  · next h =>
    subst h
    exact Or.inl ⟨'b', by decide, rfl⟩
  split
  · next h =>
    subst h
    exact Or.inl ⟨'f', by decide, rfl⟩
  split
  · next low => exact Or.inr (Or.inl ⟨low, rfl⟩)
  · next high => exact Or.inr (Or.inr ⟨quote, backslash, by omega, rfl⟩)

/-- A letter after a backslash can be printed, and it is read as what it stands for. -/
theorem writtenEscapes_spec {e c : Char} (h : (e, c) ∈ writtenEscapes) :
    shortEscape? e = some c ∧ e ≠ 'u' ∧ 32 ≤ e.toNat := by
  have table : ∀ pair ∈ writtenEscapes,
      shortEscape? pair.1 = some pair.2 ∧ pair.1 ≠ 'u' ∧ 32 ≤ pair.1.toNat := by decide
  exact table (e, c) h

/-- A hexadecimal digit is neither a quote nor a backslash and can be printed. -/
theorem hexDigit_spec {n : Nat} (h : n < 16) :
    hexDigit n ≠ '"' ∧ hexDigit n ≠ '\\' ∧ 32 ≤ (hexDigit n).toNat ∧
      hexValue? (hexDigit n) = some n := by
  have table : ∀ n < 16, hexDigit n ≠ '"' ∧ hexDigit n ≠ '\\' ∧
      32 ≤ (hexDigit n).toNat ∧ hexValue? (hexDigit n) = some n := by decide
  exact table n h

/-- The digits that are written for a control character denote it, and it is no surrogate. -/
theorem hexValues?_low {c : Char} (low : c.toNat < 32) :
    hexValues? '0' '0' (hexDigit (c.toNat / 16)) (hexDigit (c.toNat % 16)) = some c.toNat ∧
      isHighSurrogate c.toNat = false ∧ isLowSurrogate c.toNat = false := by
  obtain ⟨_, _, _, first⟩ := hexDigit_spec (by omega : c.toNat / 16 < 16)
  obtain ⟨_, _, _, second⟩ := hexDigit_spec (by omega : c.toNat % 16 < 16)
  have zero : hexValue? '0' = some 0 := rfl
  refine ⟨?_, ?_, ?_⟩
  · simp only [hexValues?, zero, first, second, bind, Option.bind]
    congr 1
    omega
  · simp [isHighSurrogate]
    omega
  · simp [isLowSurrogate]
    omega

/-- No control character is left. -/
theorem printable_escaped {c d : Char} (h : d ∈ escaped c) : 32 ≤ d.toNat := by
  rcases escaped_cases c with ⟨e, short, he⟩ | ⟨low, he⟩ | ⟨_, _, high, he⟩
  · rw [he] at h
    simp only [List.mem_cons, List.not_mem_nil, or_false] at h
    rcases h with rfl | rfl
    · decide
    · exact (writtenEscapes_spec short).2.2
  · obtain ⟨_, _, first, _⟩ := hexDigit_spec (by omega : c.toNat / 16 < 16)
    obtain ⟨_, _, second, _⟩ := hexDigit_spec (by omega : c.toNat % 16 < 16)
    rw [he] at h
    simp only [List.mem_cons, List.not_mem_nil, or_false] at h
    rcases h with rfl | rfl | rfl | rfl | rfl | rfl
    · decide
    · decide
    · decide
    · decide
    · exact first
    · exact second
  · rw [he, List.mem_singleton] at h
    exact h ▸ high

/-- A character that has been escaped is read as itself. -/
theorem textBody_escaped (kept : List Char) (c : Char) (rest : List Char) :
    textBody kept (escaped c ++ rest) = textBody (c :: kept) rest := by
  rcases escaped_cases c with ⟨e, short, he⟩ | ⟨low, he⟩ | ⟨quote, backslash, high, he⟩
  · obtain ⟨known, letter, _⟩ := writtenEscapes_spec short
    rw [he, List.cons_append, List.cons_append, List.nil_append, textBody, known]
    rintro _ _ _ _ _ rfl
    exact fun _ => letter rfl
  · obtain ⟨value, notHigh, notLow⟩ := hexValues?_low low
    rw [he]
    simp only [List.cons_append, List.nil_append]
    rw [textBody, value]
    simp only [notHigh, notLow, Char.ofNat_toNat]
    rfl
  · rw [he, List.cons_append, List.nil_append, textBody, if_neg (by omega)]
    · exact quote
    · exact fun _ _ _ _ _ same => absurd same backslash
    · exact fun _ _ same => absurd same backslash

/-- What is between quotes is read up to the closing one. -/
theorem textBody_flatMap_escaped (kept cs rest : List Char) :
    textBody kept (cs.flatMap escaped ++ '"' :: rest) =
      .ok (String.ofList (kept.reverse ++ cs), rest) := by
  induction cs generalizing kept with
  | nil => simp [textBody]
  | cons c cs ih =>
    rw [List.flatMap_cons, List.append_assoc, textBody_escaped, ih]
    simp

end WorkflowCompiler.Json
