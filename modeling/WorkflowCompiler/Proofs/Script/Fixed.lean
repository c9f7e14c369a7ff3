import WorkflowCompiler.Proofs.Script.Letters
import WorkflowCompiler.Script.Artifact

/-!
The fixed texts of scripts. The templates break lines only where a text of theirs ends, and the
prelude, the helpers and the status nodes consist of whole lines, none of which can be taken for
the beginning of a task or for the name of the workflow.
-/
namespace WorkflowCompiler.Script

def isTidy : List Piece → Bool
  | [] => true
  | .letters cs :: rest =>
    if cs.getLast? = some '\n' then decide (Unbroken cs.dropLast) && isTidy rest
    else decide (Unbroken cs) && !rest.isEmpty && isTidy rest
  | _ :: rest => !rest.isEmpty && isTidy rest

theorem tidy_of_isTidy {pieces : List Piece} (h : isTidy pieces = true) :
    Tidy (pieces.map Piece.hole) := by
  induction pieces with
  | nil => exact .nil
  | cons piece rest ih =>
    cases rest with
    | nil =>
      cases piece with
      | letters cs =>
        rw [isTidy] at h
        split at h
        · next ends =>
          rw [Bool.and_eq_true, decide_eq_true_eq] at h
          exact .feed ends h.1 .nil
        · simp at h
      | raw | quoted | literal => cases h
    | cons next rest =>
      cases piece with
      | letters cs =>
        rw [isTidy] at h
        split at h
        · next ends =>
          rw [Bool.and_eq_true, decide_eq_true_eq] at h
          exact .feed ends h.1 (ih h.2)
        · rw [Bool.and_eq_true, Bool.and_eq_true, decide_eq_true_eq] at h
          exact .text h.1.1 (ih h.2)
      | raw => exact .raw (ih h)
      | quoted => exact .quoted (ih h)
      | literal => exact .literal (ih h)

/-- Every part of every template is tidy. -/
theorem tidy_templates : ∀ t ∈ Templates.all, ∀ part ∈ t.parts, Tidy part.body := by
  have checked : (Templates.all.all fun t => (piecesOf t).all isTidy) = true := by decide +kernel
  intro t ht
  refine forall_body ht fun pieces known => tidy_of_isTidy ?_
  exact List.all_eq_true.mp (List.all_eq_true.mp checked t ht) pieces known

/-- A whole line that neither begins a task nor names the workflow: the procedure of a task has a
line that begins with a letter after `def` and ends the empty list of its parameters, and a node
has one that ends with an opening parenthesis. -/
structure Neutral (line : List Char) : Prop where
  unbroken : Unbroken line
  noName : line.take 2 ≠ ['_', 'd']
  noNode : line.getLast? ≠ some '('
  noProcedure : line.reverse.take 3 = [':', ')', '('] → (line.drop 4).head? = some '_'

instance (line : List Char) : Decidable (Neutral line) :=
  decidable_of_iff (Unbroken line ∧ line.take 2 ≠ ['_', 'd'] ∧ line.getLast? ≠ some '(' ∧
      (line.reverse.take 3 = [':', ')', '('] → (line.drop 4).head? = some '_'))
    ⟨fun ⟨unbroken, noName, noNode, noProcedure⟩ => ⟨unbroken, noName, noNode, noProcedure⟩,
      fun h => ⟨h.unbroken, h.noName, h.noNode, h.noProcedure⟩⟩

theorem neutral_prelude : ∀ line ∈ preludeLines, Neutral line.toList :=
  FixedText.prelude.forall_line (by decide +kernel)

theorem neutral_helpers : ∀ line ∈ helpersLines, Neutral line.toList :=
  FixedText.helpers.forall_line (by decide +kernel)

theorem unbroken_telemetry : ∀ line ∈ telemetryLines, Unbroken line.toList :=
  FixedText.telemetry.forall_line (by decide +kernel)

theorem lined_join {lines : List String} (h : ∀ line ∈ lines, Unbroken line.toList) :
    Lined (String.join (lines.map (· ++ "\n"))).toList (lines.map String.toList) where
  text := by
    rw [String.toList_join, List.flatMap_map, List.flatMap_map]
    simp only [String.toList_append, String.reduceToList]
  unbroken := List.forall_mem_map.mpr h

theorem lined_prelude : Lined prelude.toList (preludeLines.map String.toList) :=
  lined_join fun line hline => (neutral_prelude line hline).unbroken

theorem lined_helpers : Lined helpers.toList (helpersLines.map String.toList) :=
  lined_join fun line hline => (neutral_helpers line hline).unbroken

theorem lined_telemetry : Lined telemetry.toList (telemetryLines.map String.toList) :=
  lined_join unbroken_telemetry

end WorkflowCompiler.Script
