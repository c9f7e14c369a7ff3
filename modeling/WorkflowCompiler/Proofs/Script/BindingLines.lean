import WorkflowCompiler.Proofs.Script.Bindings
import WorkflowCompiler.Proofs.Script.Rendered
import WorkflowCompiler.Proofs.Workflow.Accepted

/-!
What the pieces of a script bind. The lines of a piece are known up to their values, and for most of
them the fixed text that they begin with shows what they bind. The header binds the same names
whatever it is filled with, and the code of a task binds the id of the task in its first line, unless
the id is no name, and nothing else.
-/
namespace WorkflowCompiler.Script

open Json (Value Members)
open Workflow (Spec Task Kind Settled TaskId)

/-- Bodies of lines that lead from one place to another and bind these names, whatever they are
filled with. -/
def BodiesRead (place : Place) (names : List String) (last : Place) (bodies : List (List Hole)) :
    Prop :=
  ∀ values lines, List.Forall₂ (fun body line => fillAll values body = .ok line) bodies lines →
    Reads place lines names last

def headerNames : List String := [
  "airflow", "PythonOperator", "BranchPythonOperator", "Variable", "StatusPublisherOperator",
  "ComputeInstanceOperator", "default_args", "_dag_name", "_dag_type", "_dag_generator_version",
  "dag"]

section Header

variable {values : Members} {place next last : Place} {names more : List String}
  {rest body : List Hole} {cs line : List Char}

theorem BodiesRead.nil : BodiesRead place [] place [] := by
  intro values lines filled
  cases filled
  exact .nil

theorem BodiesRead.cons {bodies : List (List Hole)} (next : Place) (names : List String)
    (first : ∀ values line, fillAll values body = .ok line → readLine place line = (next, names))
    (later : BodiesRead next more last bodies) :
    BodiesRead place (names ++ more) last (body :: bodies) := by
  intro values lines filled
  obtain ⟨line, others, here, there, rfl⟩ := List.forall₂_cons_left_iff.mp filled
  exact .cons (first values line here) (later values others there)

theorem exists_append_of_fillAll
    (filled : fillAll values (.text (String.ofList cs) :: rest) = .ok line) :
    ∃ more, line = cs ++ more := by
  obtain ⟨a, b, ha, _, rfl⟩ := fillAll_cons_eq_ok_iff.mp filled
  cases ha
  exact ⟨b, by rw [String.toList_ofList]⟩

theorem exists_concat_of_fillAll (init : List Hole)
    (filled : fillAll values (init ++ [.text (String.ofList cs)]) = .ok line) :
    ∃ front, line = front ++ cs := by
  obtain ⟨a, b, _, hb, rfl⟩ := fillAll_append_eq_ok_iff.mp filled
  cases (fillAll_text _).symm.trans hb
  exact ⟨a, by rw [String.toList_ofList]⟩

/-- What the end of a line of the heading tells: an argument ends in a comma, and the last line names
the workflow. -/
def headingEnd? : List Char → Option (Place × List String)
  | [','] => some (.heading, [])
  | [')', ' ', 'a', 's', ' ', 'd', 'a', 'g', ':'] => some (.block, ["dag"])
  | _ => none

theorem readIndented_of_headingEnd? (h : headingEnd? cs = some (next, names)) (front : List Char) :
    readIndented .heading (front ++ cs) = (next, names) := by
  rw [readIndented, opened?, List.reverse_append]
  unfold headingEnd? at h
  split at h
  · exact Option.some.inj h
  · exact Option.some.inj h
  · cases h

/-- Where a line leads and what it binds, if the fixed text in it tells. -/
def reading? : Place → List Piece → Option (Place × List String)
  | place, [.letters cs] => some (readLine place cs)
  | .procedure, .letters (' ' :: _) :: _ => some (.procedure, [])
  | .margin, .letters (' ' :: _) :: _ => some (.margin, [])
  | .margin, .letters ('_' :: cs) :: _ =>
    if 3 ≤ (('_' :: cs).dropWhile isWordCharacter).length then some (.margin, assigned ('_' :: cs))
    else none
  | .block, .letters (' ' :: ' ' :: ' ' :: ' ' :: cs) :: _ =>
    if 3 ≤ (cs.dropWhile isWordCharacter).length then some (.block, assigned cs) else none
  | .heading, line@(.letters (' ' :: _) :: _) =>
    match line.getLast? with
    | some (.letters cs) => headingEnd? cs
    | _ => none
  | _, _ => none

theorem readLine_of_reading? {pieces : List Piece} (h : reading? place pieces = some (next, names))
    (filled : fillAll values (pieces.map Piece.hole) = .ok line) :
    readLine place line = (next, names) := by
  unfold reading? at h
  split at h
  · cases (fillAll_text _).symm.trans filled
    rw [String.toList_ofList]
    exact Option.some.inj h
  · obtain ⟨more, rfl⟩ := exists_append_of_fillAll filled
    exact Option.some.inj h
  · obtain ⟨more, rfl⟩ := exists_append_of_fillAll filled
    exact Option.some.inj h
  · obtain ⟨more, rfl⟩ := exists_append_of_fillAll filled
    obtain ⟨long, same⟩ := Option.ite_none_right_eq_some.mp h
    rw [readLine_margin_append rfl long rfl]
    exact Option.some.inj same
  · obtain ⟨more, rfl⟩ := exists_append_of_fillAll filled
    obtain ⟨long, same⟩ := Option.ite_none_right_eq_some.mp h
    rw [readLine_block_append long rfl]
    exact Option.some.inj same
  · have indented : readLine .heading line = readIndented .heading line := by
      obtain ⟨more, rfl⟩ := exists_append_of_fillAll filled
      rfl
    rw [indented]
    split at h
    · next last =>
      rw [dropLast_append_of_getLast? last, List.map_append] at filled
      obtain ⟨front, rfl⟩ := exists_concat_of_fillAll _ filled
      exact readIndented_of_headingEnd? h front
    · cases h
  · cases h

def readings? (place : Place) : List (List Piece) → Option (Place × List String)
  | [] => some (place, [])
  | line :: lines =>
    (reading? place line).bind fun (next, names) =>
      (readings? next lines).map fun (last, more) => (last, names ++ more)

theorem bodiesRead_of_readings? {bodies : List (List Piece)}
    (h : readings? place bodies = some (last, names)) :
    BodiesRead place names last (bodies.map (·.map Piece.hole)) := by
  induction bodies generalizing place names with
  | nil =>
    cases h
    exact .nil
  | cons line bodies ih =>
    obtain ⟨⟨next, first⟩, here, h⟩ := Option.bind_eq_some_iff.mp h
    obtain ⟨⟨_, later⟩, there, h⟩ := Option.map_eq_some_iff.mp h
    cases h
    exact .cons next first (fun _ _ => readLine_of_reading? here) (ih there)

theorem reads_header : ∀ part ∈ Templates.deployHeader.parts,
    BodiesRead .procedure headerNames .block (cutLines part.body) := by
  have known : Templates.deployHeader ∈ Templates.all := List.mem_cons_self
  refine @forall_body _ known
    (fun body => BodiesRead .procedure headerNames .block (cutLines body)) fun pieces h => ?_
  rw [cutLines_map]
  refine bodiesRead_of_readings? ?_
  revert pieces
  decide +kernel

end Header

/-- What the code of tasks belongs to. -/
def codePlace : Mode → Place
  | .standalone => .procedure
  | .deployable => .block

/-- Holes that bind nothing, whatever they are filled with. -/
inductive Still : Place → List Hole → Prop
  | told {place : Place} {pieces : List Piece} : reading? place pieces = some (place, []) →
      Still place (pieces.map Piece.hole)
  | about {cs : List Char} {rest : List Hole} : Still .block
      (.text (String.ofList [' ', ' ', ' ', ' ']) :: .raw "task_id" ::
        .text (String.ofList ('.' :: cs)) :: rest)

/-- Nothing in a template binds a name below its first line. -/
def StillBelow (place : Place) : List Part → Prop
  | .holes body :: others => (∀ line ∈ (cutLines body).tail, Still place line) ∧
      ∀ part ∈ others, ∀ line ∈ cutLines part.body, Still place line
  | _ => False

section Code

variable {mode : Mode} {kind : Kind} {t : Template} {place : Place} {values : Members}
  {body : List Hole} {line cs : List Char} {id : String}

theorem isWordCharacter_of_taskId (wellNamed : TaskId id) :
    ∀ c ∈ id.toList, isWordCharacter c = true := by
  intro c hc
  have := wellNamed.isWordCharacter c hc
  simpa [isWordCharacter, Workflow.IsWordCharacter, or_assoc] using this

theorem Still.idle {holes : List Hole} (h : Still place holes)
    (named : values.get? "task_id" = some (.text id)) (wellNamed : TaskId id)
    (filled : fillAll values holes = .ok line) : Idle place line := by
  cases h with
  | told still => exact readLine_of_reading? still filled
  | @about cs rest =>
    have split : fillAll values ([.text (String.ofList [' ', ' ', ' ', ' ']), .raw "task_id",
        .text (String.ofList ('.' :: cs))] ++ rest) = .ok line := filled
    obtain ⟨a, more, begins, _, rfl⟩ := fillAll_append_eq_ok_iff.mp split
    rw [fillAll_named named, Except.ok.injEq, String.toList_ofList, String.toList_ofList] at begins
    obtain rfl := begins
    have unassigned : assigned (id.toList ++ ('.' :: (cs ++ more))) = [] :=
      assigned_word (isWordCharacter_of_taskId wellNamed) (by simp; decide)
    rw [Idle, ← unassigned, ← readLine_block_indented]
    simp

def isStill : Place → List Piece → Bool
  | .block, .letters [' ', ' ', ' ', ' '] :: .raw name :: .letters ('.' :: _) :: _ =>
    name == "task_id"
  | place, line => reading? place line == some (place, [])

theorem still_of_isStill {pieces : List Piece} (h : isStill place pieces = true) :
    Still place (pieces.map Piece.hole) := by
  unfold isStill at h
  split at h
  · cases beq_iff_eq.mp h
    exact .about
  · exact .told (beq_iff_eq.mp h)

def isStillBelow (place : Place) : List (List Piece) → Bool
  | [] => false
  | first :: others => (cutPieces first).tail.all (isStill place) &&
      others.all fun pieces => (cutPieces pieces).all (isStill place)

theorem stillBelow_of_isStillBelow {others : List Part} (ht : t ∈ Templates.all)
    (opens : t.parts = .holes body :: others)
    (checked : isStillBelow place (piecesOf t) = true) : StillBelow place t.parts := by
  have still : ∀ lines : List (List Piece), lines.all (isStill place) = true →
      ∀ line ∈ lines.map (·.map Piece.hole), Still place line := fun lines all =>
    List.forall_mem_map.mpr fun line hline => still_of_isStill (List.all_eq_true.mp all line hline)
  have spelled := map_body_eq ht
  rw [opens, List.map_cons] at spelled
  obtain ⟨first, rest, same, here, there⟩ := List.map_eq_cons_iff.mp spelled.symm
  rw [same, isStillBelow, Bool.and_eq_true] at checked
  rw [opens]
  refine ⟨?_, fun part hpart => ?_⟩
  · replace here : first.map Piece.hole = body := here
    rw [← here, cutLines_map, ← List.map_tail]
    exact still _ checked.1
  · obtain ⟨pieces, known, same⟩ :=
      List.mem_map.mp (there.symm ▸ List.mem_map_of_mem hpart : part.body ∈ _)
    rw [← same, cutLines_map]
    exact still _ (List.all_eq_true.mp checked.2 pieces known)

theorem stillBelow_of_templateFor (h : templateFor mode kind = some t) :
    StillBelow (codePlace mode) t.parts := by
  have known := mem_all_of_templateFor h
  obtain ⟨body, others, opens⟩ : ∃ body others, t.parts = .holes body :: others := by
    cases mode <;> cases kind <;> cases h <;> exact ⟨_, _, rfl⟩
  refine stillBelow_of_isStillBelow known opens ?_
  clear opens known
  cases mode <;> cases kind <;> cases h <;> decide +kernel

/-- All lines of such a template but the first bind nothing. -/
theorem StillBelow.idle {lines : List (List Char)} (h : StillBelow place t.parts)
    (once : ∀ part ∈ t.parts, ∀ item list body, part ≠ .each item list body)
    (named : values.get? "task_id" = some (.text id)) (wellNamed : TaskId id)
    (cut : t.lines values = .ok lines) : ∀ line ∈ lines.tail, Idle place line := by
  obtain ⟨pieces, each, same⟩ := bind_eq_ok_iff.mp cut
  obtain rfl := Except.ok.inj same
  match hparts : t.parts, h with
  | .holes body :: others, ⟨below, beside⟩ =>
    rw [hparts] at once each
    obtain ⟨first, rest, here, there, rfl⟩ := List.forall₂_cons_left_iff.mp (mapM_eq_ok_iff.mp each)
    have later : ∀ line ∈ rest.flatten, Idle place line := by
      intro line hline
      obtain ⟨piece, hpiece, hline⟩ := List.mem_flatten.mp hline
      obtain ⟨part, hpart, filled⟩ := exists_mem_of_forall₂ there piece hpiece
      obtain ⟨holes, hholes, filled⟩ :=
        Part.mem_lines (once part (List.mem_cons_of_mem _ hpart)) filled line hline
      exact (beside part hpart holes hholes).idle named wellNamed filled
    have here := mapM_eq_ok_iff.mp here
    generalize cutLines body = bodies at here below
    intro line hline
    cases here with
    | nil => exact later line (List.mem_of_mem_tail hline)
    | cons _ filled =>
      rcases List.mem_append.mp hline with hline | hline
      · obtain ⟨holes, hholes, filled⟩ := exists_mem_of_forall₂ filled line hline
        exact (below holes hholes).idle named wellNamed filled
      · exact later line hline

/-- The name that a task binds, with the line that binds it. -/
def boundBy (mode : Mode) (task : Task) : List (String × List Char) :=
  if (templateFor mode task.kind).isSome then
    (leadingName task.id.toList).map (·, (openingLine mode task.kind task.id).toList)
  else []

theorem readLine_openingLine (ht : templateFor mode kind = some t) (wellNamed : TaskId id) :
    readLine (codePlace mode) (openingLine mode kind id).toList =
      (codePlace mode, leadingName id.toList) := by
  have all := isWordCharacter_of_taskId wellNamed
  cases mode with
  | standalone =>
    have same : (openingLine .standalone kind id).toList =
        'd' :: 'e' :: 'f' :: ' ' :: (id.toList ++ "():".toList) := by
      simp [openingLine, headOf]
    have named : leadingName (id.toList ++ "():".toList) = leadingName id.toList :=
      leadingName_word all (by simp; decide)
    rw [same, ← named]
    rfl
  | deployable =>
    obtain ⟨operator, line⟩ := exists_openingLine_deployable kind id
    have same : (openingLine .deployable kind id).toList =
        ' ' :: ' ' :: ' ' :: ' ' :: (id.toList ++ (' ' :: '=' :: ' ' :: operator.toList)) := by
      simp [line]
    rw [same, codePlace, readLine_block_indented, assigned_word all (by simp; decide)]
    rfl

theorem exists_cons_of_lined {lines : List (List Char)} (whole : Unbroken line)
    (lined : Lined (line ++ '\n' :: cs) lines) : ∃ more, lines = line :: more := by
  have split := lined.splitAtEach
  rw [Text.splitAtEach_append_cons whole.ne_lineFeed rfl] at split
  cases lines with
  | nil =>
    have fed : '\n' ∈ line ++ '\n' :: cs := by simp
    rw [lined.text] at fed
    cases fed
  | cons first more =>
    obtain ⟨rfl, _⟩ := List.cons.inj split
    exact ⟨more, rfl⟩

end Code

end WorkflowCompiler.Script
