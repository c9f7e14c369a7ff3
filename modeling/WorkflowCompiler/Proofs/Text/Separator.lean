/-!
Cutting a text at a separating text. Pieces that the beginning of the separator does not occur
in come back from the text that joins them.
-/
namespace WorkflowCompiler.Text

/-- The pieces between the occurrences of a separator, looked for from left to right; the first
`skip` characters belong to an occurrence already found. -/
def cutFrom (separator : List Char) : Nat → List Char → List (List Char)
  | _, [] => [[]]
  | skip + 1, _ :: rest => cutFrom separator skip rest
  | 0, c :: rest =>
    if separator.isPrefixOf (c :: rest) then [] :: cutFrom separator (separator.length - 1) rest
    else match cutFrom separator 0 rest with
      | [] => [[c]]
      | piece :: pieces => (c :: piece) :: pieces

def splitAtText (separator text : String) : List String :=
  (cutFrom separator.toList 0 text.toList).map String.ofList

theorem cutFrom_skip {separator front rest : List Char} :
    cutFrom separator front.length (front ++ rest) = cutFrom separator 0 rest := by
  induction front with
  | nil => rfl
  | cons c front ih => exact ih

/-- A piece is read up to the separator. -/
theorem cutFrom_append_separator {c : Char} {others piece rest : List Char} (h : c ∉ piece) :
    cutFrom (c :: others) 0 (piece ++ (c :: others) ++ rest) =
      piece :: cutFrom (c :: others) 0 rest := by
  induction piece with
  | nil =>
    have found : (c :: others).isPrefixOf (c :: (others ++ rest)) = true := by
      rw [List.isPrefixOf_iff_prefix, ← List.cons_append]
      exact List.prefix_append _ _
    rw [List.nil_append, List.cons_append, cutFrom, if_pos found]
    exact congrArg ([] :: ·) cutFrom_skip
  | cons d piece ih =>
    have notHere : (c :: others).isPrefixOf (d :: (piece ++ (c :: others) ++ rest)) = false := by
      have : c ≠ d := fun same => h (same ▸ List.mem_cons_self)
      simp [List.isPrefixOf, this]
    rw [List.cons_append, List.cons_append, cutFrom, notHere,
      ih fun later => h (List.mem_cons_of_mem d later)]
    rfl

theorem cutFrom_of_notMem {c : Char} {others piece : List Char} (h : c ∉ piece) :
    cutFrom (c :: others) 0 piece = [piece] := by
  induction piece with
  | nil => rfl
  | cons d piece ih =>
    have notHere : (c :: others).isPrefixOf (d :: piece) = false := by
      have : c ≠ d := fun same => h (same ▸ List.mem_cons_self)
      simp [List.isPrefixOf, this]
    rw [cutFrom, notHere, ih fun later => h (List.mem_cons_of_mem d later)]
    rfl

/-- Joining pieces and cutting the text again gives the pieces back. -/
theorem splitAtText_intercalate {separator : String} {c : Char} {others : List Char}
    (first : separator.toList = c :: others) {pieces : List String} (nonempty : pieces ≠ [])
    (apart : ∀ piece ∈ pieces, c ∉ piece.toList) :
    splitAtText separator (separator.intercalate pieces) = pieces := by
  unfold splitAtText
  rw [first]
  induction pieces with
  | nil => exact absurd rfl nonempty
  | cons piece pieces ih =>
    have hpiece := apart piece List.mem_cons_self
    cases pieces with
    | nil => rw [String.intercalate_singleton, cutFrom_of_notMem hpiece]; simp
    | cons next pieces =>
      have tail := ih (by simp) fun p hp => apart p (List.mem_cons_of_mem piece hp)
      rw [String.intercalate_cons_cons, String.toList_append, String.toList_append, first,
        cutFrom_append_separator hpiece, List.map_cons, tail]
      simp

end WorkflowCompiler.Text
