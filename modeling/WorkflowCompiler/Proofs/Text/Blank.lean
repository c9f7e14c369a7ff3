import Mathlib.Data.List.DropRight
import WorkflowCompiler.Text.Alphanumeric
import WorkflowCompiler.Text.Blank

/-!
White space against the other characters, and what trimming and cutting into words do to a text.
-/
namespace WorkflowCompiler.Text

/-- Stretches of white space, both ends included. -/
def blankStretches : List (Nat × Nat) :=
  [(9, 13), (0x20, 0x20), (0x85, 0x85), (0xA0, 0xA0), (0x1680, 0x1680), (0x2000, 0x200A),
   (0x2028, 0x2029), (0x202F, 0x202F), (0x205F, 0x205F), (0x3000, 0x3000)]

theorem inRanges_of_isBlank {c : Char} (h : isBlank c = true) : inRanges blankStretches c := by
  simp only [isBlank, Bool.or_eq_true, Bool.and_eq_true, decide_eq_true_eq, beq_iff_eq] at h
  simp only [inRanges, blankStretches, List.any_cons, List.any_nil, Bool.or_false,
    Bool.or_eq_true, Bool.and_eq_true, decide_eq_true_eq]
  omega

/-- No stretch of letters and numbers meets one of white space. -/
theorem alphanumeric_apart_from_blank : ∀ range ∈ alphanumericRanges, ∀ blank ∈ blankStretches,
    blank.2 < range.1 ∨ range.2 < blank.1 := by
  have table : (alphanumericRanges.all fun range => blankStretches.all fun blank =>
      Nat.blt blank.2 range.1 || Nat.blt range.2 blank.1) = true := by decide +kernel
  intro range hrange blank hblank
  have := List.all_eq_true.mp (List.all_eq_true.mp table range hrange) blank hblank
  simpa using this

theorem toNat_of_asciiAlphanumeric {c : Char}
    (h : (isAsciiLetter c || isAsciiDigit c) = true) : 48 ≤ c.toNat := by
  simp only [isAsciiLetter, isAsciiDigit, Char.le_def, UInt32.le_iff_toNat_le, Bool.or_eq_true,
    Bool.and_eq_true, decide_eq_true_eq] at h
  change 48 ≤ c.val.toNat
  have a : ('a' : Char).val.toNat = 97 := rfl
  have A : ('A' : Char).val.toNat = 65 := rfl
  have zero : ('0' : Char).val.toNat = 48 := rfl
  omega

/-- The ASCII letters and digits are letters and numbers. -/
theorem isAlphanumeric_of_ascii {c : Char} (h : (isAsciiLetter c || isAsciiDigit c) = true) :
    isAlphanumeric c = true := by
  have ascii : c.toNat < 128 := by
    simp only [isAsciiLetter, isAsciiDigit, Char.le_def, UInt32.le_iff_toNat_le, Bool.or_eq_true,
      Bool.and_eq_true, decide_eq_true_eq] at h
    change c.val.toNat < 128
    have z : ('z' : Char).val.toNat = 122 := rfl
    have Z : ('Z' : Char).val.toNat = 90 := rfl
    have nine : ('9' : Char).val.toNat = 57 := rfl
    omega
  rw [isAlphanumeric, if_pos ascii, h]

/-- No letter or number is white space. -/
theorem isAlphanumeric_eq_false_of_isBlank {c : Char} (h : isBlank c = true) :
    isAlphanumeric c = false := by
  rw [Bool.eq_false_iff]
  intro alphanumeric
  unfold isAlphanumeric at alphanumeric
  split at alphanumeric
  · next ascii =>
    have := toNat_of_asciiAlphanumeric alphanumeric
    simp only [isBlank, Bool.or_eq_true, Bool.and_eq_true, decide_eq_true_eq, beq_iff_eq] at h
    omega
  · obtain ⟨blank, hblank, above, below⟩ := inRanges_iff.mp (inRanges_of_isBlank h)
    obtain ⟨range, hrange, above', below'⟩ := inRanges_iff.mp alphanumeric
    have := alphanumeric_apart_from_blank range hrange blank hblank
    omega

theorem dropEndWhile_eq (p : Char → Bool) (cs : List Char) :
    dropEndWhile p cs = cs.rdropWhile p := rfl

/-- A text that neither begins nor ends with white space has none to lose. -/
theorem trimmed_eq_self {cs : List Char} (first : ∀ c ∈ cs.head?, isBlank c = false)
    (last : ∀ c ∈ cs.getLast?, isBlank c = false) : trimmed cs = cs := by
  have front : cs.dropWhile isBlank = cs := by
    cases cs with
    | nil => rfl
    | cons c cs => exact List.dropWhile_cons_of_neg (by simp [first c (by simp)])
  rw [trimmed, front, dropEndWhile_eq, List.rdropWhile_eq_self_iff]
  intro nonempty blank
  rw [last _ (List.getLast_mem_getLast? nonempty)] at blank
  cases blank

theorem trimmed_head {cs : List Char} : ∀ c ∈ (trimmed cs).head?, isBlank c = false := by
  intro c hc
  have front : trimmed cs <+: cs.dropWhile isBlank := by
    rw [trimmed, dropEndWhile_eq]
    exact List.rdropWhile_prefix isBlank _
  obtain ⟨back, hback⟩ := front
  have := List.head?_dropWhile_not isBlank cs
  rw [← hback, List.head?_append, Option.mem_def.mp hc] at this
  exact this

theorem trimmed_getLast {cs : List Char} : ∀ c ∈ (trimmed cs).getLast?, isBlank c = false := by
  intro c hc
  rw [trimmed, dropEndWhile_eq] at hc
  have nonempty : (cs.dropWhile isBlank).rdropWhile isBlank ≠ [] := by
    intro empty
    rw [empty] at hc
    cases hc
  have := List.rdropWhile_last_not isBlank _ nonempty
  rw [List.getLast?_eq_some_getLast nonempty, Option.mem_some] at hc
  rw [hc] at this
  simpa using this

theorem trimmed_trimmed (cs : List Char) : trimmed (trimmed cs) = trimmed cs :=
  trimmed_eq_self trimmed_head trimmed_getLast

/-- Trimming once is enough. -/
theorem trim_trim (s : String) : trim (trim s) = trim s := by
  rw [trim, trim, String.toList_ofList, trimmed_trimmed]

theorem trimmed_cons_blank {c : Char} (h : isBlank c = true) (cs : List Char) :
    trimmed (c :: cs) = trimmed cs := by
  rw [trimmed, trimmed, List.dropWhile_cons_of_pos h]

theorem trimmed_blank_append {before : List Char} (blank : ∀ c ∈ before, isBlank c = true)
    (cs : List Char) : trimmed (before ++ cs) = trimmed cs := by
  rw [trimmed, trimmed, List.dropWhile_append_of_pos blank]

theorem trimmed_append_blank {after : List Char} (blank : ∀ c ∈ after, isBlank c = true)
    (cs : List Char) : trimmed (cs ++ after) = trimmed cs := by
  rw [trimmed, trimmed, List.dropWhile_append]
  split
  · next none =>
    rw [List.isEmpty_iff.mp none, List.dropWhile_eq_nil_iff.mpr blank]
  · have back : ∀ c ∈ after.reverse, isBlank c = true := fun c hc =>
      blank c (List.mem_reverse.mp hc)
    rw [dropEndWhile, dropEndWhile, List.reverse_append, List.dropWhile_append_of_pos back]

/-- Trimming gives the inside of a text with white space around it. -/
theorem trimmed_eq_iff {cs inner : List Char} (first : ∀ c ∈ inner.head?, isBlank c = false)
    (last : ∀ c ∈ inner.getLast?, isBlank c = false) : trimmed cs = inner ↔
      ∃ before after, cs = before ++ (inner ++ after) ∧ (∀ c ∈ before, isBlank c = true) ∧
        ∀ c ∈ after, isBlank c = true := by
  constructor
  · rintro rfl
    refine ⟨cs.takeWhile isBlank, (cs.dropWhile isBlank).rtakeWhile isBlank, ?_,
      fun c => List.mem_takeWhile_imp, fun c => List.mem_rtakeWhile_imp⟩
    rw [trimmed, dropEndWhile_eq, List.rdropWhile_append_rtakeWhile, List.takeWhile_append_dropWhile]
  · rintro ⟨before, after, rfl, before_blank, after_blank⟩
    rw [trimmed_blank_append before_blank, trimmed_append_blank after_blank,
      trimmed_eq_self first last]

theorem splitAtEach_cons_of_neg {p : Char → Bool} {c : Char} (h : p c = false) (cs : List Char) :
    ∃ piece pieces, splitAtEach p cs = piece :: pieces ∧
      splitAtEach p (c :: cs) = (c :: piece) :: pieces := by
  obtain ⟨piece, pieces, hcut⟩ := List.exists_cons_of_ne_nil (splitAtEach_ne_nil p cs)
  refine ⟨piece, pieces, hcut, ?_⟩
  rw [splitAtEach] at hcut ⊢
  rw [List.foldr_cons, hcut]
  simp [h]

/-- Characters that are not cut at belong to the first piece. -/
theorem splitAtEach_append {p : Char → Bool} {piece rest first : List Char}
    {others : List (List Char)} (whole : ∀ c ∈ piece, p c = false)
    (h : splitAtEach p rest = first :: others) :
    splitAtEach p (piece ++ rest) = (piece ++ first) :: others := by
  induction piece with
  | nil => exact h
  | cons c piece ih =>
    obtain ⟨_, _, hcut, hcons⟩ :=
      splitAtEach_cons_of_neg (whole c List.mem_cons_self) (piece ++ rest)
    rw [ih fun d hd => whole d (List.mem_cons_of_mem c hd)] at hcut
    cases hcut
    exact hcons

theorem splitAtEach_of_all_neg {p : Char → Bool} {piece : List Char}
    (whole : ∀ c ∈ piece, p c = false) : splitAtEach p piece = [piece] := by
  have := splitAtEach_append whole (splitAtEach_nil p)
  rwa [List.append_nil] at this

theorem splitAtEach_append_cons {p : Char → Bool} {piece : List Char} {c : Char}
    (whole : ∀ c ∈ piece, p c = false) (hc : p c = true) (rest : List Char) :
    splitAtEach p (piece ++ c :: rest) = piece :: splitAtEach p rest := by
  rw [splitAtEach_append whole (splitAtEach_cons_of_pos hc rest), List.append_nil]

/-- Pieces without the separator come back from the text that joins them with it. -/
theorem splitAtEach_intercalate {separator : Char} {pieces : List (List Char)}
    (nonempty : pieces ≠ []) (apart : ∀ piece ∈ pieces, separator ∉ piece) :
    splitAtEach (· == separator) ([separator].intercalate pieces) = pieces := by
  induction pieces with
  | nil => exact absurd rfl nonempty
  | cons piece pieces ih =>
    have whole : ∀ c ∈ piece, (c == separator) = false := by
      intro c hc
      rw [beq_eq_false_iff_ne]
      rintro rfl
      exact apart piece List.mem_cons_self hc
    cases pieces with
    | nil => rw [List.intercalate_singleton, splitAtEach_of_all_neg whole]
    | cons next pieces =>
      rw [List.intercalate_cons_cons, List.append_assoc, List.singleton_append,
        splitAtEach_append_cons whole (beq_self_eq_true separator),
        ih (List.cons_ne_nil next pieces) fun p hp => apart p (List.mem_cons_of_mem piece hp)]

/-- A text is its pieces joined with the separator. -/
theorem intercalate_splitAtEach (separator : Char) (cs : List Char) :
    [separator].intercalate (splitAtEach (· == separator) cs) = cs := by
  induction cs with
  | nil => rfl
  | cons c cs ih =>
    by_cases here : (c == separator) = true
    · have longer := splitAtEach_cons_of_pos (p := (· == separator)) here cs
      obtain ⟨piece, pieces, cut⟩ :=
        List.exists_cons_of_ne_nil (splitAtEach_ne_nil (· == separator) cs)
      rw [cut] at ih longer
      rw [longer, List.intercalate_cons_cons, ih, eq_of_beq here]
      rfl
    · obtain ⟨piece, pieces, cut, longer⟩ :=
        splitAtEach_cons_of_neg (p := (· == separator)) (Bool.eq_false_iff.mpr here) cs
      rw [cut] at ih
      rw [longer, ← ih]
      cases pieces with
      | nil => rw [List.intercalate_singleton, List.intercalate_singleton]
      | cons next pieces => rw [List.intercalate_cons_cons, List.intercalate_cons_cons]; rfl

/-- The last piece is empty only if a text ends in a separator, or if there is no text. -/
theorem getLast?_of_splitAtEach {p : Char → Bool} {cs : List Char}
    (h : (splitAtEach p cs).getLast? = some []) : cs = [] ∨ ∃ c ∈ cs.getLast?, p c = true := by
  induction cs with
  | nil => exact .inl rfl
  | cons c cs ih =>
    right
    obtain ⟨piece, pieces, cut⟩ := List.exists_cons_of_ne_nil (splitAtEach_ne_nil p cs)
    by_cases here : p c = true
    · rw [splitAtEach_cons_of_pos here, cut, List.getLast?_cons_cons, ← cut] at h
      rcases ih h with rfl | ⟨last, ends, separates⟩
      · exact ⟨c, rfl, here⟩
      · exact ⟨last, by rw [List.getLast?_cons, Option.mem_def.mp ends]; rfl, separates⟩
    · obtain ⟨first, others, cut', longer⟩ :=
        splitAtEach_cons_of_neg (Bool.eq_false_iff.mpr here) cs
      rw [longer] at h
      rw [cut'] at ih
      cases others with
      | nil => cases h
      | cons next others =>
        rw [List.getLast?_cons_cons] at h
        rcases ih (by rw [List.getLast?_cons_cons, h]) with rfl | ⟨last, ends, separates⟩
        · cases cut'
        · exact ⟨last, by rw [List.getLast?_cons, Option.mem_def.mp ends]; rfl, separates⟩

def runsOf (p : Char → Bool) (cs : List Char) : List (List Char) :=
  (splitAtEach p cs).filter (· ≠ [])

section Runs

variable {p : Char → Bool} {c : Char} {run rest : List Char}

theorem runsOf_cons_of_pos (h : p c = true) (cs : List Char) : runsOf p (c :: cs) = runsOf p cs := by
  rw [runsOf, splitAtEach_cons_of_pos h]
  rfl

/-- A run before a separator or the end is a run of the text. -/
theorem runsOf_append (nonempty : run ≠ []) (whole : ∀ c ∈ run, p c = false)
    (stop : ∀ c ∈ rest.head?, p c = true) : runsOf p (run ++ rest) = run :: runsOf p rest := by
  cases rest with
  | nil =>
    rw [List.append_nil, runsOf, splitAtEach_of_all_neg whole]
    simp [runsOf, splitAtEach_nil, nonempty]
  | cons c rest =>
    have separator : p c = true := stop c (by simp)
    rw [runsOf_cons_of_pos separator, runsOf, splitAtEach_append_cons whole separator,
      List.filter_cons_of_pos (by simpa using nonempty)]
    rfl

end Runs

theorem wordsOf_cons_blank {c : Char} (h : isBlank c = true) (cs : List Char) :
    wordsOf (c :: cs) = wordsOf cs :=
  runsOf_cons_of_pos h cs

/-- A word before white space or the end is a word of the text. -/
theorem wordsOf_append_of_word {word rest : List Char} (nonempty : word ≠ [])
    (whole : ∀ c ∈ word, isBlank c = false) (stop : ∀ c ∈ rest.head?, isBlank c = true) :
    wordsOf (word ++ rest) = word :: wordsOf rest :=
  runsOf_append nonempty whole stop

end WorkflowCompiler.Text
