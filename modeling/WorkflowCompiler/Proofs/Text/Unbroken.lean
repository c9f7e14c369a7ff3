/-!
Characters that can be printed and texts that stay on one line.
-/
namespace WorkflowCompiler

def Printable (c : Char) : Prop := 32 ≤ c.toNat

instance (c : Char) : Decidable (Printable c) := inferInstanceAs (Decidable (32 ≤ c.toNat))

def AllPrintable (cs : List Char) : Prop := ∀ c ∈ cs, Printable c

instance (cs : List Char) : Decidable (AllPrintable cs) := List.decidableBAll Printable cs

/-- No line break of either kind. -/
def Unbroken (cs : List Char) : Prop := '\n' ∉ cs ∧ '\r' ∉ cs

instance (cs : List Char) : Decidable (Unbroken cs) :=
  inferInstanceAs (Decidable ('\n' ∉ cs ∧ '\r' ∉ cs))

section Lists

variable {c : Char} {cs ds : List Char}

@[simp] theorem allPrintable_nil : AllPrintable [] := List.forall_mem_nil _

@[simp] theorem allPrintable_cons : AllPrintable (c :: cs) ↔ Printable c ∧ AllPrintable cs :=
  List.forall_mem_cons

@[simp] theorem allPrintable_append :
    AllPrintable (cs ++ ds) ↔ AllPrintable cs ∧ AllPrintable ds :=
  List.forall_mem_append

theorem AllPrintable.of_subset (h : AllPrintable ds) (sub : cs ⊆ ds) : AllPrintable cs :=
  fun c hc => h c (sub hc)

theorem allPrintable_replicate {n : Nat} (h : Printable c) : AllPrintable (List.replicate n c) :=
  fun _ hd => List.eq_of_mem_replicate hd ▸ h

theorem unbroken_nil : Unbroken [] := by decide

theorem unbroken_append : Unbroken (cs ++ ds) ↔ Unbroken cs ∧ Unbroken ds := by
  simp only [Unbroken, List.mem_append, not_or]
  exact and_and_and_comm

theorem unbroken_cons : Unbroken (c :: cs) ↔ (c ≠ '\n' ∧ c ≠ '\r') ∧ Unbroken cs := by
  simp only [Unbroken, List.mem_cons, not_or, ne_comm (a := c), ne_eq]
  exact and_and_and_comm

theorem Unbroken.ne_lineFeed (h : Unbroken cs) : ∀ c ∈ cs, (c == '\n') = false := by
  intro c hc
  rw [beq_eq_false_iff_ne]
  rintro rfl
  exact h.1 hc

/-- Line breaks are control characters. -/
theorem AllPrintable.unbroken (h : AllPrintable cs) : Unbroken cs :=
  ⟨fun hc => absurd (h _ hc) (by decide), fun hc => absurd (h _ hc) (by decide)⟩

end Lists

end WorkflowCompiler
