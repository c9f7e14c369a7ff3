import WorkflowCompiler.Proofs.Json.Text
import WorkflowCompiler.Proofs.Script.LiteralReader

/-!
Quoted texts. Nothing inside the quotes can end the text, and every character is read back as
itself: the escapes of JSON that are written mean the same in Python.
-/
namespace WorkflowCompiler.Script

open Json (escaped escaped_cases hexDigit_spec writtenEscapes)

/-- The inside of a quoted text: a quote or a backslash is part of an escape. -/
inductive Enclosed : List Char → Prop
  | nil : Enclosed []
  | plain {c : Char} {rest : List Char} : c ≠ '"' → c ≠ '\\' → Enclosed rest →
      Enclosed (c :: rest)
  | escape {c : Char} {rest : List Char} : Enclosed rest → Enclosed ('\\' :: c :: rest)

theorem Enclosed.append {cs ds : List Char} (h : Enclosed cs) (h' : Enclosed ds) :
    Enclosed (cs ++ ds) := by
  induction h with
  | nil => exact h'
  | plain quote backslash _ ih => exact .plain quote backslash ih
  | escape _ ih => exact .escape ih

/-- Python reads a letter after a backslash as what it stands for; only `u` begins more. -/
theorem lookup_writtenEscapes {e c : Char} (h : (e, c) ∈ writtenEscapes) :
    shortEscapes.lookup e = some c ∧ e ≠ 'u' := by
  have table : ∀ pair ∈ writtenEscapes,
      shortEscapes.lookup pair.1 = some pair.2 ∧ pair.1 ≠ 'u' := by decide
  exact table (e, c) h

theorem enclosed_escaped (c : Char) : Enclosed (escaped c) := by
  rcases escaped_cases c with ⟨e, _, he⟩ | ⟨low, he⟩ | ⟨quote, backslash, _, he⟩
  · rw [he]
    exact .escape .nil
  · obtain ⟨quote, backslash, _⟩ := hexDigit_spec (by omega : c.toNat / 16 < 16)
    obtain ⟨quote', backslash', _⟩ := hexDigit_spec (by omega : c.toNat % 16 < 16)
    rw [he]
    exact .escape (.plain (by decide) (by decide) (.plain (by decide) (by decide)
      (.plain quote backslash (.plain quote' backslash' .nil))))
  · rw [he]
    exact .plain quote backslash .nil

theorem enclosed_flatMap_escaped (cs : List Char) : Enclosed (cs.flatMap escaped) := by
  induction cs with
  | nil => exact .nil
  | cons c cs ih => exact (enclosed_escaped c).append ih

/-- A character that has been escaped is read as itself. -/
theorem textBody_escaped (kept : List Char) (c : Char) (rest : List Char) :
    textBody kept (escaped c ++ rest) = textBody (c :: kept) rest := by
  rcases escaped_cases c with ⟨e, short, he⟩ | ⟨low, he⟩ | ⟨quote, backslash, high, he⟩
  · obtain ⟨known, letter⟩ := lookup_writtenEscapes short
    rw [he, List.cons_append, List.cons_append, List.nil_append, textBody, known]
    rintro _ _ _ _ _ rfl
    exact fun _ => letter rfl
  · obtain ⟨value, notHigh, notLow⟩ := Json.hexValues?_low low
    rw [he]
    simp only [List.cons_append, List.nil_append]
    rw [textBody, value]
    simp only [notHigh, notLow, Bool.or_self, Char.ofNat_toNat]
    rfl
  · have allowed : ¬ (c = '\n' ∨ c = '\r' ∨ c = '\x00' ∨ c = '\\') := by
      rintro (rfl | rfl | rfl | rfl)
      · exact absurd high (by decide)
      · exact absurd high (by decide)
      · exact absurd high (by decide)
      · exact backslash rfl
    rw [he, List.cons_append, List.nil_append, textBody, if_neg allowed]
    · exact quote
    · exact fun _ _ _ _ _ same => absurd same backslash
    · exact fun _ _ same => absurd same backslash

theorem textBody_flatMap_escaped (kept cs rest : List Char) :
    textBody kept (cs.flatMap escaped ++ '"' :: rest) =
      some (String.ofList (kept.reverse ++ cs), rest) := by
  induction cs generalizing kept with
  | nil => simp [textBody]
  | cons c cs ih =>
    rw [List.flatMap_cons, List.append_assoc, textBody_escaped, ih]
    simp

theorem Enclosed.head {cs : List Char} (h : Enclosed cs) : ∀ c ∈ cs.head?, c ≠ '"' := by
  cases h with
  | nil => simp
  | plain quote => simpa using quote
  | escape => simp

/-- A quoted text is read as the text, unless three quotes come together. -/
theorem readText_escaped (cs : List Char) {rest : List Char} (stop : ∀ c ∈ rest.head?, c ≠ '"') :
    readText (cs.flatMap escaped ++ '"' :: rest) = some (String.ofList cs, rest) := by
  rw [readText, textBody_flatMap_escaped, List.reverse_nil, List.nil_append]
  intro others same
  have enclosed := enclosed_flatMap_escaped cs
  cases body : cs.flatMap escaped with
  | nil =>
    rw [body, List.nil_append] at same
    obtain ⟨_, rfl⟩ := List.cons.inj same
    exact stop '"' rfl rfl
  | cons c body' =>
    rw [body] at same enclosed
    exact enclosed.head c rfl (List.cons.inj same).1

end WorkflowCompiler.Script
