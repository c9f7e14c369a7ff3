import WorkflowCompiler.Proofs.Workflow.Load

/-!
Start dates and the numbers they denote. A start date is numbers between commas, each with white
space around it and perhaps with zeros before it; a canonical one has neither. Main result: what
three to six numbers in bounds are read from is accepted and nothing else is, the result is the
canonical text of these numbers, and the check of what has been stored never objects.
-/
namespace WorkflowCompiler.Workflow.StartDate

/-- A part of a start date: a number of 32 bits with white space around it. -/
def PartOf (part : List Char) (n : Nat) : Prop :=
  ∃ before digits after, part = before ++ (digits ++ after) ∧
    (∀ c ∈ before, Text.isBlank c = true) ∧ (∀ c ∈ after, Text.isBlank c = true) ∧
    Decimal.Spells digits n ∧ n < Nat.pow 2 32

/-- The text is parts between commas that denote the numbers, in their order. -/
def Dates (s : String) (numbers : List Nat) : Prop :=
  ∃ parts, s.toList = [','].intercalate parts ∧ List.Forall₂ PartOf parts numbers

def Plain (part : List Char) (n : Nat) : Prop :=
  Decimal.Spells part n ∧ (part.head? = some '0' → part = ['0'])

/-- The text is nothing but the numbers, without zeros before them, and a comma and a space
between each and the next. -/
def Canonical (t : String) (numbers : List Nat) : Prop :=
  ∃ parts, t.toList = [',', ' '].intercalate parts ∧ List.Forall₂ Plain parts numbers

section Parts

variable {part digits : List Char} {n : Nat}

theorem not_isBlank_of_spells (h : Decimal.Spells digits n) :
    ∀ c ∈ digits, Text.isBlank c = false :=
  fun c hc => isBlank_eq_false_of_isAsciiDigit (h.digits c hc)

theorem partValue?_eq_some_iff_partOf : partValue? part = some n ↔ PartOf part n := by
  have spelled : partValue? part = some n ↔ Decimal.Spells (Text.trimmed part) n ∧ n < bound := by
    rw [partValue?_eq_some_iff]
    exact ⟨fun ⟨nonempty, all, value, small⟩ => ⟨⟨nonempty, all, value⟩, small⟩,
      fun ⟨h, small⟩ => ⟨h.nonempty, h.digits, h.value, small⟩⟩
  have inside : ∀ {digits}, Decimal.Spells digits n → (Text.trimmed part = digits ↔
      ∃ before after, part = before ++ (digits ++ after) ∧
        (∀ c ∈ before, Text.isBlank c = true) ∧ ∀ c ∈ after, Text.isBlank c = true) :=
    fun h => Text.trimmed_eq_iff
      (fun c hc => not_isBlank_of_spells h c (List.mem_of_mem_head? hc))
      (fun c hc => not_isBlank_of_spells h c (List.mem_of_mem_getLast? hc))
  rw [spelled]
  constructor
  · rintro ⟨h, small⟩
    obtain ⟨before, after, same, blankBefore, blankAfter⟩ := (inside h).mp rfl
    exact ⟨before, _, after, same, blankBefore, blankAfter, h, small⟩
  · rintro ⟨before, digits, after, same, blankBefore, blankAfter, h, small⟩
    have trimmed := (inside h).mpr ⟨before, after, same, blankBefore, blankAfter⟩
    exact ⟨trimmed.symm ▸ h, small⟩

/-- Neither digits nor white space are commas. -/
theorem PartOf.not_mem (h : PartOf part n) : ',' ∉ part := by
  obtain ⟨before, digits, after, rfl, blankBefore, blankAfter, spelled, _⟩ := h
  simp only [List.mem_append, not_or]
  refine ⟨fun inside => ?_, fun inside => ?_, fun inside => ?_⟩
  · exact absurd (blankBefore _ inside) (by decide)
  · exact absurd (spelled.digits _ inside) (by decide)
  · exact absurd (blankAfter _ inside) (by decide)

theorem plain_digitsOf (n : Nat) : Plain (Decimal.digitsOf n) n := by
  refine ⟨Decimal.spells_digitsOf n, fun zero => ?_⟩
  rcases Nat.eq_zero_or_pos n with rfl | positive
  · rfl
  · exact absurd rfl (Decimal.digitsOf_head positive '0' zero)

end Parts

section Numbers

variable {s t : String} {numbers others : List Nat}

/-- What is read from a text is what it denotes. -/
theorem numbers?_eq_some_iff_dates : numbers? s.toList = some numbers ↔
    Dates s numbers ∧ 3 ≤ numbers.length ∧ numbers.length ≤ 6 := by
  rw [numbers?_eq_some_iff]
  simp only [partValue?_eq_some_iff_partOf]
  refine and_congr_left fun ⟨atLeast, _⟩ => ?_
  constructor
  · intro parts
    exact ⟨_, (Text.intercalate_splitAtEach ',' s.toList).symm, parts⟩
  · rintro ⟨parts, joined, each⟩
    have nonempty : parts ≠ [] := by
      rintro rfl
      cases each
      exact absurd atLeast (by decide)
    have apart : ∀ part ∈ parts, ',' ∉ part := by
      intro part hpart
      obtain ⟨n, _, own⟩ := exists_mem_of_forall₂ each.flip part hpart
      exact PartOf.not_mem own
    rw [joined, Text.splitAtEach_intercalate nonempty apart]
    exact each

/-- No part is empty, so a text is cut into its parts in one way only. -/
theorem parts_unique {parts others : List (List Char)} {numbers' : List Nat}
    (each : List.Forall₂ PartOf parts numbers) (each' : List.Forall₂ PartOf others numbers')
    (same : [','].intercalate parts = [','].intercalate others) : parts = others := by
  have filled : ∀ {first : List Char} {rest : List (List Char)} {ns : List Nat},
      List.Forall₂ PartOf (first :: rest) ns → [','].intercalate (first :: rest) ≠ [] := by
    rintro first rest ns (_ | ⟨⟨before, digits, after, rfl, _, _, spelled, _⟩, _⟩)
    cases rest <;> simp [List.intercalate_cons_cons, spelled.nonempty]
  have apart : ∀ {parts : List (List Char)} {ns : List Nat}, List.Forall₂ PartOf parts ns →
      ∀ part ∈ parts, ',' ∉ part := by
    intro parts ns each part hpart
    obtain ⟨n, _, own⟩ := exists_mem_of_forall₂ each.flip part hpart
    exact PartOf.not_mem own
  cases parts with
  | nil =>
    cases others with
    | nil => rfl
    | cons first rest => exact absurd same.symm (filled each')
  | cons first rest =>
    cases others with
    | nil => exact absurd same (filled each)
    | cons first' rest' =>
      rw [← Text.splitAtEach_intercalate (List.cons_ne_nil _ _) (apart each), same,
        Text.splitAtEach_intercalate (List.cons_ne_nil _ _) (apart each')]

/-- A text denotes numbers in one way only. -/
theorem Dates.unique {others : List Nat} (h : Dates s numbers) (h' : Dates s others) :
    numbers = others := by
  obtain ⟨parts, joined, each⟩ := h
  obtain ⟨parts', joined', each'⟩ := h'
  obtain rfl := parts_unique each each' (joined.symm.trans joined')
  refine List.right_unique_forall₂' (fun part n m hn hm => ?_) each each'
  exact Option.some.inj
    ((partValue?_eq_some_iff_partOf.mpr hn).symm.trans (partValue?_eq_some_iff_partOf.mpr hm))

theorem canonical_write (numbers : List Nat) :
    Canonical (String.ofList (write numbers)) numbers := by
  refine ⟨numbers.map Decimal.digitsOf, String.toList_ofList, ?_⟩
  rw [List.forall₂_map_left_iff]
  exact List.forall₂_same.mpr fun n _ => plain_digitsOf n

/-- A text is accepted for the numbers that it denotes, and the result is their canonical text. -/
theorem normalize_eq_ok_iff_dates : normalize s = .ok t ↔ ∃ numbers, Dates s numbers ∧
    (3 ≤ numbers.length ∧ numbers.length ≤ 6) ∧ t = String.ofList (write numbers) := by
  simp only [normalize_eq_ok_iff, numbers?_eq_some_iff_dates, and_assoc]

theorem dates_write (h : Dates s numbers) (atLeast : 3 ≤ numbers.length)
    (atMost : numbers.length ≤ 6) : Dates (String.ofList (write numbers)) numbers := by
  have proper := proper_of_numbers? (numbers?_eq_some_iff_dates.mpr ⟨h, atLeast, atMost⟩)
  refine (numbers?_eq_some_iff_dates.mp ?_).1
  rw [String.toList_ofList]
  exact numbers?_write proper

end Numbers

end StartDate

/-- Checking a specification whose start date can be read finds fault with other things only. -/
theorem validate_ne_invalidField {spec : Spec} {start : String}
    (started : StartDate.normalize spec.startDate = .ok start) (name reason : String) :
    validate spec ≠ .error (.invalidField name reason) := by
  intro rejected
  rcases bind_eq_error_iff.mp rejected with refused | ⟨_, _, rejected⟩
  · cases started.symm.trans refused
  rcases bind_eq_error_iff.mp rejected with refused | ⟨_, _, rejected⟩
  · cases (objectTo_eq_error_iff.mp refused).2
  rcases bind_eq_error_iff.mp rejected with refused | ⟨_, _, rejected⟩
  · cases (objectTo_eq_error_iff.mp refused).2
  rcases bind_eq_error_iff.mp rejected with refused | ⟨_, _, rejected⟩
  · cases (objectTo_eq_error_iff.mp refused).2
  rcases bind_eq_error_iff.mp rejected with refused | ⟨graph, _, rejected⟩
  · rcases bind_eq_error_iff.mp refused with refused | ⟨_, _, refused⟩
    · obtain ⟨expression, _, malformed⟩ := mapM_eq_error refused
      obtain ⟨_, same⟩ := Dependency.edges_eq_error malformed
      cases same
    · cases refused
  rcases bind_eq_error_iff.mp rejected with refused | ⟨_, _, rejected⟩
  · obtain ⟨_, same, _⟩ := Dependency.Graph.validate_eq_error refused
    cases same
  · cases rejected

namespace StartDate

/-- Three to six numbers of 32 bits between commas, with white space around them, are what is
accepted, and the result is the canonical text of these numbers, which is its own. Results are
the same exactly for the same numbers. A specification that is stored for a document has a start
date in this form, and checking it does not object to a field. -/
theorem start_date_canonical :
    (∀ s, (∃ t, normalize s = .ok t) ↔
      ∃ numbers, Dates s numbers ∧ 3 ≤ numbers.length ∧ numbers.length ≤ 6) ∧
    (∀ s t, normalize s = .ok t → normalize t = .ok t ∧
      ∃ numbers, Dates s numbers ∧ Dates t numbers ∧ Canonical t numbers) ∧
    (∀ s s' t t', normalize s = .ok t → normalize s' = .ok t' →
      (t = t' ↔ ∃ numbers, Dates s numbers ∧ Dates s' numbers)) ∧
    ∀ path base document spec, describe path base document = .ok spec →
      normalize spec.startDate = .ok spec.startDate ∧
      ∀ name reason, validate spec ≠ .error (.invalidField name reason) := by
  refine ⟨fun s => ?_, fun s t accepted => ?_, fun s s' t t' accepted accepted' => ?_, ?_⟩
  · simp only [normalize_eq_ok_iff_dates]
    constructor
    · rintro ⟨_, numbers, dates, short, _⟩
      exact ⟨numbers, dates, short⟩
    · rintro ⟨numbers, dates, short⟩
      exact ⟨_, numbers, dates, short, rfl⟩
  · obtain ⟨numbers, dates, ⟨atLeast, atMost⟩, same⟩ := normalize_eq_ok_iff_dates.mp accepted
    refine ⟨normalize_normalize accepted, numbers, dates, ?_⟩
    rw [same]
    exact ⟨dates_write dates atLeast atMost, canonical_write numbers⟩
  · obtain ⟨numbers, dates, ⟨atLeast, atMost⟩, rfl⟩ := normalize_eq_ok_iff_dates.mp accepted
    obtain ⟨numbers', dates', ⟨atLeast', atMost'⟩, rfl⟩ := normalize_eq_ok_iff_dates.mp accepted'
    constructor
    · intro same
      have written := dates_write dates atLeast atMost
      rw [same] at written
      obtain rfl := written.unique (dates_write dates' atLeast' atMost')
      exact ⟨_, dates, dates'⟩
    · rintro ⟨shared, own, own'⟩
      rw [dates.unique own, dates'.unique own']
  · intro path base document spec described
    obtain ⟨decoded, start, _, started, rfl⟩ := describe_eq_ok_iff.mp described
    have again : normalize (decoded.settle base start).startDate = .ok start :=
      normalize_normalize started
    exact ⟨again, validate_ne_invalidField again⟩

/-- Zeros before a number, white space of other kinds and the greatest number of all. -/
theorem start_date_canonical_padded :
    let s := "\t2019\u3000,007 , 4294967295"
    normalize s = .ok "2019, 7, 4294967295" ∧
      normalize "2019, 7, 4294967295" = .ok "2019, 7, 4294967295" ∧
      ∃ numbers, Dates s numbers ∧ Canonical "2019, 7, 4294967295" numbers := by
  intro s
  have accepted : normalize s = .ok "2019, 7, 4294967295" :=
    toOption_eq_some_iff.mp (by decide +kernel)
  obtain ⟨again, numbers, dates, _, canonical⟩ := start_date_canonical.2.1 s _ accepted
  exact ⟨accepted, again, numbers, dates, canonical⟩

end StartDate

end WorkflowCompiler.Workflow
