import WorkflowCompiler.Proofs.Script.Structure

/-!
Where the code of a task begins. The first line of the code of a task names the task, and no other
line of a script can be taken for it: in a local script no other line of a procedure begins with
the letter of `def`, in a deployable one no other line of a node ends with an opening parenthesis.
-/
namespace WorkflowCompiler.Script

open Json (Value Members)
open Workflow (Spec Task Kind Settled TaskId)

/-- The holes of the lines that the code of a task can begin with. -/
def heads : Mode → List (List Hole)
  | .standalone => [[.text "def ", .raw "task_id", .text "():"]]
  | .deployable => [
      [.text "    ", .raw "task_id", .text " = PythonOperator("],
      [.text "    ", .raw "task_id", .text " = ComputeInstanceOperator("]]

/-- Holes that cannot be filled to a line that the code of a task begins with. -/
inductive Sideline : Mode → List Hole → Prop
  | blank {mode : Mode} : Sideline mode [.text (String.ofList [])]
  | begins {c : Char} {cs : List Char} {rest : List Hole} : c ≠ 'd' →
      Sideline .standalone (.text (String.ofList (c :: cs)) :: rest)
  | ends {init : List Hole} {cs : List Char} : cs ≠ [] → cs.getLast? ≠ some '(' →
      Sideline .deployable (init ++ [.text (String.ofList cs)])
  | quoted {init : List Hole} {name : String} :
      Sideline .deployable (init ++ [.quoted name] ++ [.text (String.ofList [])])

def isSideline : Mode → List Piece → Bool
  | _, [.letters []] => true
  | .standalone, .letters (c :: _) :: _ => c != 'd'
  | .standalone, _ => false
  | .deployable, line =>
    match line.getLast?, line.dropLast.getLast? with
    | some (.letters []), some (.quoted _) => true
    | some (.letters cs), _ => cs != [] && cs.getLast? != some '('
    | _, _ => false

theorem dropLast_append_of_getLast? {α : Type} {xs : List α} {x : α} (h : xs.getLast? = some x) :
    xs = xs.dropLast ++ [x] := by
  obtain ⟨init, rfl⟩ := List.getLast?_eq_some_iff.mp h
  rw [List.dropLast_concat]

theorem sideline_of_isSideline {mode : Mode} {line : List Piece} (h : isSideline mode line = true) :
    Sideline mode (line.map Piece.hole) := by
  unfold isSideline at h
  split at h
  · exact .blank
  · exact .begins (bne_iff_ne.mp h)
  · cases h
  · split at h
    · next last before =>
      rw [dropLast_append_of_getLast? last, dropLast_append_of_getLast? before, List.map_append,
        List.map_append]
      exact .quoted
    · next cs last _ =>
      rw [Bool.and_eq_true, bne_iff_ne, bne_iff_ne] at h
      rw [dropLast_append_of_getLast? last, List.map_append]
      exact .ends h.1 h.2
    · cases h

/-- Each line of a template passes the check, unless it is one that the template opens with. -/
theorem head_or_sideline {t : Template} {mode : Mode} {opening : List (List Hole)}
    {spelled : List (List Piece)} (ht : t ∈ Templates.all)
    (spells : List.Forall₂ (List.Forall₂ Spells) opening spelled)
    (checked : ((piecesOf t).all fun pieces => (cutPieces pieces).all fun line =>
      spelled.contains line || isSideline mode line) = true) :
    ∀ part ∈ t.parts, ∀ line ∈ cutLines part.body, line ∈ opening ∨ Sideline mode line := by
  have same : opening = spelled.map (·.map Piece.hole) := by
    rw [← List.forall₂_eq_eq_eq, List.forall₂_map_right_iff]
    exact spells.imp fun _ _ => eq_map_of_spells
  refine @forall_line t ht (fun line => line ∈ opening ∨ Sideline mode line) _
    (fun line passed => ?_) checked
  rw [Bool.or_eq_true, List.contains_iff_mem] at passed
  rw [same]
  exact passed.imp List.mem_map_of_mem sideline_of_isSideline

theorem line_of_templateFor {mode : Mode} {kind : Kind} {t : Template}
    (h : templateFor mode kind = some t) :
    ∀ part ∈ t.parts, ∀ line ∈ cutLines part.body, line ∈ heads mode ∨ Sideline mode line := by
  have known := mem_all_of_templateFor h
  cases mode with
  | standalone =>
    refine head_or_sideline known (.cons (.cons .letters (.cons .raw (.cons .letters .nil))) .nil) ?_
    cases kind <;> cases h <;> decide +kernel
  | deployable =>
    refine head_or_sideline known (.cons (.cons .letters (.cons .raw (.cons .letters .nil)))
      (.cons (.cons .letters (.cons .raw (.cons .letters .nil))) .nil)) ?_
    cases kind <;> cases h <;> decide +kernel

/-- In the header only the line that opens the workflow ends with an opening parenthesis. -/
theorem line_header : ∀ part ∈ Templates.deployHeader.parts, ∀ line ∈ cutLines part.body,
    line = [.text "with airflow.DAG("] ∨ Sideline .deployable line := by
  simpa only [List.mem_singleton] using
    head_or_sideline List.mem_cons_self (.cons (.cons .letters .nil) .nil) (by decide +kernel)

end WorkflowCompiler.Script
