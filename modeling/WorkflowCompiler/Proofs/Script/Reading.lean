import WorkflowCompiler.Proofs.Script.Literal
import WorkflowCompiler.Proofs.Script.Located

/-!
What is read back from scripts. A literal is found by the text that its line begins with: no line
before it, below the line that names its task, begins with this text. What stands there reads as
the value that the literal was made from.
-/
namespace WorkflowCompiler.Script

open Json (Value Members)
open Workflow (Spec Task Kind Settled QueryParameters)

/-- The value of the literal that follows the opening, in the first line that begins with it. -/
def literalAfter (opening : String) (lines : List (List Char)) : Option Value :=
  (lines.findSome? (opening.toList.isPrefixOf? ·)).bind fun rest => (readLiteral rest).map (·.1)

/-- In the first line that begins with the opening the literal of the value follows, and a
delimiter or nothing after it. -/
def Passes (opening : String) (lines : List (List Char)) (v : Value) : Prop :=
  ∃ rest, lines.findSome? (opening.toList.isPrefixOf? ·) = some ((literal v).toList ++ rest) ∧
    Delimited rest

instance (rest : List Char) : Decidable (Delimited rest) :=
  Option.decidableForallMem rest.head?

/-- Whatever its holes are filled with, a line does not begin with the opening. -/
inductive Apart (opening : List Char) : List Hole → Prop
  | blank : opening ≠ [] → Apart opening [.text (String.ofList [])]
  | text {cs : List Char} {rest : List Hole} :
      (opening.zip cs).any (fun pair => pair.1 ≠ pair.2) = true →
      Apart opening (.text (String.ofList cs) :: rest)

/-- The first line that can begin with the opening goes on with the hole, and a delimiter or
nothing follows. -/
inductive Leads (opening : List Char) (hole : Hole) : List (List Hole) → Prop
  | here {cs : List Char} {more : List (List Hole)} : Delimited cs → Leads opening hole
      ([.text (String.ofList opening), hole, .text (String.ofList cs)] :: more)
  | later {line : List Hole} {lines : List (List Hole)} : Apart opening line →
      Leads opening hole lines → Leads opening hole (line :: lines)

section Lines

variable {opening : String} {values : Members} {line : List Hole} {l : List Char}
  {lines more : List (List Char)}

theorem literalAfter_append (h : ∀ l ∈ lines, opening.toList.isPrefixOf? l = none) :
    literalAfter opening (lines ++ more) = literalAfter opening more := by
  rw [literalAfter, literalAfter, List.findSome?_append, List.findSome?_eq_none_iff.mpr h,
    Option.none_or]

theorem isPrefixOf?_of_any_ne {cs ds rest : List Char}
    (h : (cs.zip ds).any (fun pair => pair.1 ≠ pair.2) = true) :
    cs.isPrefixOf? (ds ++ rest) = none := by
  rw [Option.eq_none_iff_forall_ne_some]
  intro tail found
  rw [List.isPrefixOf?_eq_some_iff_append_eq] at found
  induction cs generalizing ds with
  | nil => simp at h
  | cons c cs ih =>
    cases ds with
    | nil => simp at h
    | cons d ds =>
      obtain ⟨rfl, tails⟩ := List.cons.inj found
      exact ih (by simpa using h) tails

theorem Apart.isPrefixOf? {cs : List Char} (h : Apart cs line)
    (filled : fillAll values line = .ok l) : cs.isPrefixOf? l = none := by
  cases h with
  | blank nonempty =>
    cases (fillAll_text _).symm.trans filled
    obtain ⟨c, cs, rfl⟩ := List.exists_cons_of_ne_nil nonempty
    simp [List.isPrefixOf?]
  | text apart =>
    obtain ⟨a, b, ha, _, rfl⟩ := fillAll_cons_eq_ok_iff.mp filled
    cases ha
    rw [String.toList_ofList]
    exact isPrefixOf?_of_any_ne apart

/-- A literal that is passed is read back. -/
theorem Passes.literalAfter_eq {v : Value} (h : Passes opening lines v) (ordered : Json.Ordered v)
    (integral : Integral v) : literalAfter opening lines = some v := by
  obtain ⟨rest, found, ends⟩ := h
  have read : readLiteral ((literal v).toList ++ rest) = some (v, rest) := by
    rw [literal, String.toList_ofList, readLiteral]
    exact readsBack integral ordered _ rest (by simp) ends
  rw [literalAfter, found, Option.bind_some, read, Option.map_some]

/-- By induction along the lines, up to the one that is looked for. -/
theorem Leads.passes {cs : List Char} {hole : Hole} {v : Value} {holes : List (List Hole)}
    (h : Leads cs hole holes) (written : hole.fill values = .ok (Json.write python v))
    (filled : List.Forall₂ (fun line l => fillAll values line = .ok l) holes lines)
    (more : List (List Char)) : Passes (String.ofList cs) (lines ++ more) v := by
  unfold Passes
  rw [String.toList_ofList]
  induction h generalizing lines with
  | @here ds _ delimited =>
    obtain ⟨l, lines, here, _, rfl⟩ := List.forall₂_cons_left_iff.mp filled
    obtain ⟨_, b, hopening, hb, rfl⟩ := fillAll_cons_eq_ok_iff.mp here
    cases hopening
    obtain ⟨filling, _, hfilling, hends, rfl⟩ := fillAll_cons_eq_ok_iff.mp hb
    cases (fillAll_text _).symm.trans hends
    cases written.symm.trans hfilling
    have whole : ∀ tail : List Char, cs.isPrefixOf? (cs ++ tail) = some tail := fun tail =>
      List.isPrefixOf?_eq_some_iff_append_eq.mpr rfl
    refine ⟨ds, ?_, delimited⟩
    simp only [String.toList_ofList, List.cons_append, List.findSome?_cons, whole, literal]
  | later apart _ ih =>
    obtain ⟨l, lines, here, later, rfl⟩ := List.forall₂_cons_left_iff.mp filled
    rw [List.cons_append, List.findSome?_cons, apart.isPrefixOf? here]
    exact ih later

/-- What is filled into a hole for a quoted text is the literal of this text. -/
theorem fill_quoted {name s : String} (named : values.get? name = some (.text s)) :
    (Hole.quoted name).fill values = .ok (Json.write python (.text s)) := by
  refine bind_eq_ok_iff.mpr ⟨_, lookUp_eq_ok_iff.mpr named, ?_⟩
  rw [shown, String.ofList_toList]
  rfl

theorem fill_literal {name : String} {v : Value} (named : values.get? name = some v) :
    (Hole.literal name).fill values = .ok (Json.write python v) :=
  bind_eq_ok_iff.mpr ⟨_, lookUp_eq_ok_iff.mpr named, rfl⟩

/-- A quoted text is read back. -/
theorem Leads.literalAfter {cs : List Char} {name s : String} {holes : List (List Hole)}
    (h : Leads cs (.quoted name) holes) (named : values.get? name = some (.text s))
    (filled : List.Forall₂ (fun line l => fillAll values line = .ok l) holes lines)
    (more : List (List Char)) :
    Script.literalAfter (String.ofList cs) (lines ++ more) = some (.text s) :=
  (h.passes (fill_quoted named) filled more).literalAfter_eq (.text s) (.text s)

section Check

variable {cs : List Char} {hole : Piece} {bodies : List (List Piece)}

def isApart (cs : List Char) : List Piece → Bool
  | [.letters []] => cs != []
  | .letters ds :: _ => (cs.zip ds).any fun pair => pair.1 ≠ pair.2
  | _ => false

def isPassing (cs : List Char) (hole : Piece) : List Piece → Bool
  | [.letters ds, piece, .letters ends] => ds == cs && piece == hole && decide (Delimited ends)
  | _ => false

def isLeading (cs : List Char) (hole : Piece) : List (List Piece) → Bool
  | [] => false
  | line :: lines => isPassing cs hole line || (isApart cs line && isLeading cs hole lines)

theorem apart_of_isApart {line : List Piece} (h : isApart cs line = true) :
    Apart cs (line.map Piece.hole) := by
  unfold isApart at h
  split at h
  · exact .blank (bne_iff_ne.mp h)
  · exact .text h
  · cases h

theorem leads_of_isPassing {line : List Piece} (h : isPassing cs hole line = true) :
    Leads cs hole.hole ((line :: bodies).map (·.map Piece.hole)) := by
  unfold isPassing at h
  split at h
  · rw [Bool.and_eq_true, Bool.and_eq_true, beq_iff_eq, beq_iff_eq, decide_eq_true_iff] at h
    obtain ⟨⟨rfl, rfl⟩, delimited⟩ := h
    exact .here delimited
  · cases h

theorem leads_of_isLeading (h : isLeading cs hole bodies = true) :
    Leads cs hole.hole (bodies.map (·.map Piece.hole)) := by
  induction bodies with
  | nil => cases h
  | cons line bodies ih =>
    rw [isLeading, Bool.or_eq_true, Bool.and_eq_true] at h
    rcases h with passing | ⟨apart, later⟩
    · exact leads_of_isPassing passing
    · exact .later (apart_of_isApart apart) (ih later)

/-- The opening is given by its text, and the letters of the text come from unification. -/
theorem leads_cutLines {pieces : List Piece} {body : List Hole} (same : opening = String.ofList cs)
    (spelled : body = pieces.map Piece.hole)
    (checked : isLeading cs hole (cutPieces pieces) = true) :
    Leads opening.toList hole.hole (cutLines body) := by
  rw [same, String.toList_ofList, spelled, cutLines_map]
  exact leads_of_isLeading checked

end Check

end Lines

def afterHead (mode : Mode) : List Hole :=
  ((queryTemplate mode).parts.flatMap (·.body)).drop 3

theorem afterHead_eq (mode : Mode) : afterHead mode =
    ((piecesOf (queryTemplate mode)).flatten.drop 3).map Piece.hole := by
  rw [afterHead, flatMap_body (by cases mode <;> simp [queryTemplate, Templates.all]), List.map_drop]

theorem leads_name : ∀ part ∈ Templates.deployHeader.parts,
    Leads "_dag_name = ".toList (.quoted "dag_name") (cutLines part.body) := by
  have known : Templates.deployHeader ∈ Templates.all := List.mem_cons_self
  refine @forall_body _ known
    (fun body => Leads "_dag_name = ".toList (.quoted "dag_name") (cutLines body)) fun pieces h => ?_
  refine @leads_cutLines _ _ (.quoted "dag_name") _ _ rfl rfl ?_
  revert pieces
  decide +kernel

theorem leads_deployable : Leads "        op_kwargs=\x7b\"sql_id\": ".toList (.quoted "task_id")
    (cutLines (afterHead .deployable)) :=
  @leads_cutLines _ _ (.quoted "task_id") _ _ rfl (afterHead_eq .deployable) (by decide +kernel)

theorem leads_local :
    Leads "    execute_gbq(sql_id=".toList (.quoted "task_id") (cutLines (afterHead .standalone)) ∧
    Leads "                dag_name=".toList (.quoted "dag_name")
      (cutLines (afterHead .standalone)) ∧
    Leads "                local_sql_query=".toList (.quoted "sql")
      (cutLines (afterHead .standalone)) :=
  ⟨@leads_cutLines _ _ (.quoted "task_id") _ _ rfl (afterHead_eq .standalone) (by decide +kernel),
    @leads_cutLines _ _ (.quoted "dag_name") _ _ rfl (afterHead_eq .standalone) (by decide +kernel),
    @leads_cutLines _ _ (.quoted "sql") _ _ rfl (afterHead_eq .standalone) (by decide +kernel)⟩

section Scripts

variable {files : Files.Tree} {spec : Spec} {graph : Workflow.Dependency.Graph} {mode : Mode}
  {subset : List String} {a : Artifact} {tasks : List Task} {task : Task} {values : Members}
  {lines : List (List Char)}

theorem lines_of_single {t : Template} {body : List Hole} (single : t.parts = [.holes body])
    (h : t.lines values = .ok lines) :
    List.Forall₂ (fun line l => fillAll values line = .ok l) (cutLines body) lines := by
  obtain ⟨pieces, cut, h⟩ := bind_eq_ok_iff.mp h
  cases h
  replace cut := mapM_eq_ok_iff.mp cut
  rw [single] at cut
  obtain ⟨piece, _, first, none, rfl⟩ := List.forall₂_cons_left_iff.mp cut
  cases none
  simpa using mapM_eq_ok_iff.mp first

theorem cutLines_head {cs ds : List Char} {name : String} {rest : List Hole}
    (inside : cs.getLast? ≠ some '\n') (ends : ds.getLast? = some '\n') :
    cutLines (.text (String.ofList cs) :: .raw name :: .text (String.ofList ds) :: rest) =
      [.text (String.ofList cs), .raw name, .text (String.ofList ds.dropLast)] ::
        cutLines rest := by
  simp [cutLines, Hole.ending?, inside, ends]

/-- The code of a query begins with the line that names it. -/
theorem exists_lines_query (named : values.get? "task_id" = some (.text task.id))
    (h : (queryTemplate mode).lines values = .ok lines) : ∃ rest,
      lines = (headOf mode task.id).toList :: rest ∧
      List.Forall₂ (fun line l => fillAll values line = .ok l) (cutLines (afterHead mode)) rest := by
  obtain ⟨body, before, after, single, cut, same⟩ : ∃ body before after,
      (queryTemplate mode).parts = [.holes body] ∧
      cutLines body = [.text before, .raw "task_id", .text after] :: cutLines (afterHead mode) ∧
      headOf mode task.id = before ++ task.id ++ after := by
    cases mode with
    | standalone =>
      exact ⟨_, "def ", "():", rfl, cutLines_head (by decide +kernel) (by decide +kernel), rfl⟩
    | deployable =>
      exact ⟨_, "    ", " = PythonOperator(", rfl,
        cutLines_head (by decide +kernel) (by decide +kernel), rfl⟩
  have filled := lines_of_single single h
  rw [cut, List.forall₂_cons_left_iff] at filled
  obtain ⟨first, rest, hfirst, hrest, rfl⟩ := filled
  refine ⟨rest, ?_, hrest⟩
  rw [fillAll_named named, Except.ok.injEq] at hfirst
  rw [← hfirst, same, String.toList_append, String.toList_append, List.append_assoc]

theorem templateFor_query (mode : Mode) : templateFor mode .query = some (queryTemplate mode) := by
  cases mode <;> rfl

/-- In a script of all tasks, what stands below the line that names a query reads as the values
that its code was made from. -/
theorem exists_readings (settled : Settled spec graph)
    (h : assemble files spec mode subset = .ok a) (all : mode = .deployable ∨ subset = [])
    (htask : task ∈ spec.tasks) (query : task.kind = .query) : ∃ p sql values f,
      QueryCode files (.ofSpec spec) mode task p sql values f ∧
      ∀ opening name s, Leads opening.toList (.quoted name) (cutLines (afterHead mode)) →
        values.get? name = some (.text s) →
        literalAfter opening (below (headOf mode task.id) a.source) = some (.text s) := by
  obtain ⟨tasks, compiled, head, last, assembled⟩ := assembled_of_assemble h
  have selects := assembled.selects
  rw [selectTasks, if_pos all, Except.ok.injEq] at selects
  subst selects
  obtain ⟨f?, lines, made, contributes, found⟩ := assembled.exists_below settled htask
  obtain ⟨f, p, sql, values, rfl, code⟩ := queryCode_of_compileTask query made
  have cut := lines_of_render (templateFor_query mode) code.taskId
    (settled.unbroken_id task htask) code.rendered contributes.lined
  obtain ⟨rest, begins, filled⟩ := exists_lines_query code.taskId cut
  obtain ⟨more, hbelow⟩ := found rest begins
  refine ⟨p, sql, values, f, code, fun opening name s leads named => ?_⟩
  have read := leads.literalAfter named filled more
  rwa [hbelow, ← String.ofList_toList (s := opening)]

/-- The node of a query in a deployable script states its id. -/
theorem reads_node (settled : Settled spec graph)
    (h : assemble files spec .deployable subset = .ok a) (htask : task ∈ spec.tasks)
    (query : task.kind = .query) :
    literalAfter "        op_kwargs=\x7b\"sql_id\": " (below (headOf .deployable task.id) a.source) =
      some (.text task.id) := by
  obtain ⟨p, sql, values, f, code, reads⟩ :=
    exists_readings settled h (Or.inl rfl) htask query
  exact reads _ _ _ leads_deployable code.taskId

/-- The procedure of a query in a local script states its id and the name of the workflow, and it
embeds the text of the query's file. -/
theorem exists_reads_procedure (settled : Settled spec graph)
    (h : assemble files spec .standalone [] = .ok a) (htask : task ∈ spec.tasks)
    (query : task.kind = .query) : ∃ (p : QueryParameters) (sql : String),
      task.queryParameters = .ok p ∧ files.readText (spec.resolve p.sqlFile) = .ok sql ∧
      literalAfter "    execute_gbq(sql_id=" (below (headOf .standalone task.id) a.source) =
        some (.text task.id) ∧
      literalAfter "                dag_name=" (below (headOf .standalone task.id) a.source) =
        some (.text spec.deploymentName) ∧
      literalAfter "                local_sql_query="
        (below (headOf .standalone task.id) a.source) = some (.text sql) := by
  obtain ⟨p, sql, values, f, code, reads⟩ :=
    exists_readings settled h (Or.inr rfl) htask query
  obtain ⟨leadsId, leadsName, leadsQuery⟩ := leads_local
  exact ⟨p, sql, code.parameters, code.read, reads _ _ _ leadsId code.taskId,
    reads _ _ _ leadsName code.dagName, reads _ _ _ leadsQuery code.sql⟩

theorem isPrefixOf?_of_neutral {line : List Char} (h : Neutral line) :
    "_dag_name = ".toList.isPrefixOf? line = none := by
  rw [Option.eq_none_iff_forall_ne_some]
  intro rest found
  rw [List.isPrefixOf?_eq_some_iff_append_eq] at found
  exact h.noName (found ▸ rfl)

/-- A deployable script states its name. -/
theorem reads_name (settled : Settled spec graph)
    (h : assemble files spec .deployable subset = .ok a) :
    literalAfter "_dag_name = " (linesOf a.source) = some (.text spec.deploymentName) := by
  obtain ⟨tasks, compiled, head, last, assembled⟩ := assembled_of_assemble h
  obtain ⟨headLines, pieces, lastLines, lined, linedHead, _⟩ := assembled.exists_lines settled
  obtain ⟨values, cut, hcut, named, linedCut⟩ := exists_lines_header settled assembled.heading
  obtain rfl := linedHead.unique linedCut
  have filled := lines_of_single rfl hcut
  have read := (leads_name _ List.mem_cons_self).literalAfter named filled
  rw [linesOf, lined.splitAtEach]
  simp only [List.append_assoc]
  rw [literalAfter_append (List.forall_mem_map.mpr fun line hline =>
      isPrefixOf?_of_neutral (neutral_prelude line hline)),
    literalAfter_append (List.forall_mem_map.mpr fun line hline =>
      isPrefixOf?_of_neutral (neutral_helpers line hline))]
  exact read _

end Scripts

end WorkflowCompiler.Script
