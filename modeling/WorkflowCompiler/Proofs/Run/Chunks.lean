import WorkflowCompiler.Proofs.Run.Lines

/-!
The lines of a stream, told without a pump. The bytes are cut at every line feed, a carriage
return that ends a piece is taken off, and the rest of the piece is read as text. What no line
feed ends is a last line, unless nothing is left of it. Main result: whatever the reads, a pump
gives these lines, no others, and the number of bytes.
-/
namespace WorkflowCompiler.Run

/-- A piece of a stream, and what of it belongs to the line. -/
inductive Trimmed : List UInt8 → List UInt8 → Prop
  | returned (kept : List UInt8) : Trimmed (kept ++ [13]) kept
  | plain {piece : List UInt8} (noReturn : ∀ kept, piece ≠ kept ++ [13]) : Trimmed piece piece

/-- The lines of a stream that gives these bytes and then ends. -/
inductive LinesOf : List UInt8 → List String → Prop
  | ended {rest : List UInt8} (noFeed : 10 ∉ rest) (trimmed : Trimmed rest []) : LinesOf rest []
  | last {rest kept : List UInt8} (noFeed : 10 ∉ rest) (trimmed : Trimmed rest kept)
      (nonempty : kept ≠ []) : LinesOf rest [Text.decodeTolerantly kept]
  | line {piece kept rest : List UInt8} {texts : List String} (noFeed : 10 ∉ piece)
      (trimmed : Trimmed piece kept) (others : LinesOf rest texts) :
      LinesOf (piece ++ 10 :: rest) (Text.decodeTolerantly kept :: texts)

/-- A list ends in a given byte or does not. -/
theorem trimmed_iff {piece kept : List UInt8} : Trimmed piece kept ↔ withoutReturn piece = kept := by
  constructor
  · intro trimmed
    cases trimmed with
    | returned => simp [withoutReturn]
    | plain noReturn =>
      refine if_neg fun ends => ?_
      obtain ⟨front, same⟩ := List.getLast?_eq_some_iff.1 ends
      exact noReturn front same
  · rintro rfl
    unfold withoutReturn
    split
    · next ends =>
      obtain ⟨front, rfl⟩ := List.getLast?_eq_some_iff.1 ends
      simpa using Trimmed.returned front
    · next other =>
      refine .plain fun front same => other ?_
      rw [same, List.getLast?_concat]

theorem Trimmed.eq_withoutReturn {piece kept : List UInt8} (trimmed : Trimmed piece kept) :
    withoutReturn piece = kept :=
  trimmed_iff.1 trimmed

theorem trimmed_withoutReturn (piece : List UInt8) : Trimmed piece (withoutReturn piece) :=
  trimmed_iff.2 rfl

/-- A stream has no line feed, or there is a first one. -/
theorem exists_first_feed (bytes : List UInt8) :
    10 ∉ bytes ∨ ∃ piece rest, 10 ∉ piece ∧ bytes = piece ++ 10 :: rest := by
  by_cases feed : 10 ∈ bytes
  · obtain ⟨piece, rest, same, noFeed⟩ := List.eq_append_cons_of_mem feed
    exact .inr ⟨piece, rest, noFeed, same⟩
  · exact .inl feed

/-- The lines are those the parts between the line feeds make. -/
theorem linesOf_linesUntil (bytes : List UInt8) : LinesOf bytes (linesUntil none bytes) := by
  -- Each line feed shortens what is left.
  induction measured : bytes.length using Nat.strongRecOn generalizing bytes with
  | ind length ih =>
    obtain noFeed | ⟨piece, rest, noFeed, rfl⟩ := exists_first_feed bytes
    · rw [linesUntil_of_notMem noFeed, if_pos rfl]
      unfold lastLine
      split
      · next nothing => exact .ended noFeed (nothing ▸ trimmed_withoutReturn bytes)
      · next nonempty => exact .last noFeed (trimmed_withoutReturn bytes) nonempty
    · have shorter : rest.length < length := by
        rw [← measured, List.length_append, List.length_cons]
        omega
      rw [linesUntil_append_feed noFeed]
      exact .line noFeed (trimmed_withoutReturn piece) (ih _ shorter rest rfl)

/-- A stream has its lines in one way only. -/
theorem LinesOf.eq_linesUntil {bytes : List UInt8} {texts : List String}
    (told : LinesOf bytes texts) : texts = linesUntil none bytes := by
  induction told with
  | ended noFeed trimmed =>
    rw [linesUntil_of_notMem noFeed, lastLine, trimmed.eq_withoutReturn]
    rfl
  | last noFeed trimmed nonempty =>
    rw [linesUntil_of_notMem noFeed, lastLine, lineText, trimmed.eq_withoutReturn, if_neg nonempty]
    rfl
  | line noFeed trimmed _ ih =>
    rw [linesUntil_append_feed noFeed, lineText, trimmed.eq_withoutReturn, ih]

/-- The lines of a stream depend on its bytes alone. -/
theorem lines_however_read (bytes : List UInt8) :
    ∃ texts, LinesOf bytes texts ∧ (∀ others, LinesOf bytes others → others = texts) ∧
      ∀ chunks : List (List UInt8), chunks.flatten = bytes →
        pumpLines ⟨chunks, none⟩ = (texts, .ok bytes.length) := by
  refine ⟨linesUntil none bytes, linesOf_linesUntil bytes, fun others => LinesOf.eq_linesUntil, ?_⟩
  rintro chunks rfl
  exact pumpLines_eq ⟨chunks, none⟩

end WorkflowCompiler.Run
