import WorkflowCompiler.Proofs.Script.BindingLines
import WorkflowCompiler.Proofs.Script.Wired

/-!
The names of the script itself. What the fixed text of a script binds does not depend on its tasks,
and each task adds the binding of its id. So the names of the script keep their meaning exactly if
no task bears one of them, which the loader does not ask for.
-/
namespace WorkflowCompiler.Script

open Workflow (Spec Task Kind Settled TaskId)

def headingNames : Mode → List String
  | .standalone => []
  | .deployable => headerNames

def endingNames : Mode → List String
  | .standalone => ["root", "handler"]
  | .deployable => statusNames

/-- The names of a script itself, in the order in which it binds them. -/
def ownNames (mode : Mode) : List String :=
  preludeNames ++ helperNames ++ headingNames mode ++ endingNames mode

def endingLines : Mode → List String
  | .standalone => entryPointLines
  | .deployable => telemetryLines

theorem reads_entryPoint : Reads .procedure (entryPointLines.map String.toList) ["root", "handler"]
    .block :=
  FixedText.entryPoint.reads (by decide +kernel)

theorem reads_ending (mode : Mode) : Reads (codePlace mode) ((endingLines mode).map String.toList)
    (endingNames mode) .block := by
  cases mode with
  | standalone => exact reads_entryPoint
  | deployable => exact reads_telemetry

section Scripts

variable {files : Files.Tree} {ctx : Context} {spec : Spec} {graph : Workflow.Dependency.Graph}
  {mode : Mode} {subset : List String} {a : Artifact} {task : Task} {tasks : List Task}
  {f? : Option Fragment} {compiled : List (Option Fragment)} {head last : String}
  {lines : List (List Char)} {pieces : List (List (List Char))}

theorem bindings_linesOf {place : Place} {source : String} (lined : Lined source.toList lines) :
    bindings place (linesOf source) = bindings place lines := by
  have last : bindings (placeAfter place lines) [[]] = [] :=
    bindings_of_idle (List.forall_mem_singleton.mpr rfl)
  rw [linesOf, lined.splitAtEach, bindings_append, last, List.append_nil]

/-- The code of a task binds its id, in its first line. -/
theorem Contributes.bindings_eq (h : Contributes files ctx mode task f? lines)
    (wellNamed : TaskId task.id) :
    placeAfter (codePlace mode) lines = codePlace mode ∧
      bindings (codePlace mode) lines = boundBy mode task := by
  cases h with
  | nothing without => simp [placeAfter, bindings, boundBy, without]
  | @code t f _ ht compiled _ lined =>
    obtain ⟨values, rendered, named, _⟩ := compiled.code
    have whole : Unbroken task.id.toList := wellNamed.printable.unbroken
    have cut := lines_of_render ht named whole rendered lined
    have idle := (stillBelow_of_templateFor ht).idle (once_of_templateFor ht) named wellNamed cut
    obtain ⟨rest, begins⟩ := opening_of_render ht named rendered
    rw [begins] at lined
    obtain ⟨more, rfl⟩ := exists_cons_of_lined (unbroken_openingLine mode task.kind whole) lined
    rw [List.tail_cons] at idle
    have reads := readLine_openingLine ht wellNamed
    constructor
    · rw [placeAfter, List.foldl_cons, reads]
      exact placeAfter_of_idle idle
    · rw [bindings, reads, bindings_of_idle idle, boundBy, ht, List.append_nil]
      rfl

/-- By induction along the tasks: each leaves off where it began. -/
theorem bindings_codes (wellNamed : ∀ task ∈ tasks, TaskId task.id)
    (contributed : List.Forall₂ (fun task lines => ∃ f?,
      compileTask ctx files mode task = .ok f? ∧ Contributes files ctx mode task f? lines)
      tasks pieces) :
    placeAfter (codePlace mode) pieces.flatten = codePlace mode ∧
      bindings (codePlace mode) pieces.flatten = tasks.flatMap (boundBy mode) := by
  induction contributed with
  | nil => exact ⟨rfl, rfl⟩
  | cons first _ ih =>
    obtain ⟨_, _, contributes⟩ := first
    obtain ⟨here, later⟩ := List.forall_mem_cons.mp wellNamed
    obtain ⟨stays, binds⟩ := contributes.bindings_eq here
    obtain ⟨rest, others⟩ := ih later
    rw [List.flatten_cons, List.flatMap_cons, placeAfter_append, bindings_append, stays, binds,
      others]
    exact ⟨rest, rfl⟩

theorem reads_heading (settled : Settled spec graph) (made : heading spec mode = .ok head) :
    ∃ lines, Lined head.toList lines ∧
      Reads .procedure lines (headingNames mode) (codePlace mode) := by
  cases mode with
  | standalone =>
    cases made
    exact ⟨[], .nil, .nil⟩
  | deployable =>
    obtain ⟨values, lines, cut, _, lined⟩ := exists_lines_header settled made
    refine ⟨lines, lined, ?_⟩
    obtain ⟨pieces, each, same⟩ := bind_eq_ok_iff.mp cut
    obtain rfl := Except.ok.inj same
    obtain ⟨piece, _, filled, rest, rfl⟩ := List.forall₂_cons_left_iff.mp (mapM_eq_ok_iff.mp each)
    cases rest
    rw [List.flatten_cons, List.flatten_nil, List.append_nil]
    exact reads_header _ List.mem_cons_self values piece (mapM_eq_ok_iff.mp filled)

/-- What a script consists of above the code of its tasks. -/
theorem reads_above (settled : Settled spec graph) (made : heading spec mode = .ok head) :
    ∃ lines, Lined (String.join [prelude, helpers, head]).toList lines ∧
      Reads .margin lines (preludeNames ++ helperNames ++ headingNames mode) (codePlace mode) := by
  obtain ⟨lines, lined, reads⟩ := reads_heading settled made
  refine ⟨preludeLines.map String.toList ++ helpersLines.map String.toList ++ lines, ?_,
    (reads_prelude.append reads_helpers).append reads⟩
  rw [String.toList_join]
  simpa using (lined_prelude.append lined_helpers).append lined

theorem idle_of_indented {text : String} (absent : '=' ∉ text.toList) :
    Idle .block ("    " ++ text).toList := by
  rw [String.toList_append]
  exact idle_indented absent

theorem not_mem_of_taskId {id : String} (wellNamed : TaskId id) : '=' ∉ id.toList :=
  fun hc => absurd (isWordCharacter_of_taskId wellNamed _ hc) (by decide)

theorem unbroken_entryPointLines : ∀ line ∈ entryPointLines, Unbroken line.toList :=
  FixedText.entryPoint.forall_line (by decide +kernel)

theorem idle_wiringHeading : ∀ line ∈ wiringHeading, Idle .block line.toList :=
  @FixedText.forall_line .wiringHeading (Idle .block) (by decide +kernel)

/-- Calls bind nothing. -/
theorem idle_callLine {id : String} (wellNamed : TaskId id) : Idle .block (callLine id).toList := by
  rw [callLine, String.append_assoc]
  refine idle_of_indented ?_
  simp [not_mem_of_taskId wellNamed]

/-- Edges bind nothing. -/
theorem idle_wiringLines (settled : Settled spec graph) :
    ∀ line ∈ wiringLines spec, Idle .block line.toList := by
  intro line hline
  rcases List.mem_append.mp hline with hline | hline
  · rcases List.mem_append.mp hline with hline | hline
    · exact idle_wiringHeading line hline
    · obtain ⟨expression, he, rfl⟩ := List.mem_map.mp hline
      obtain ⟨_, hts, _⟩ := settled.sound.declared expression he
      exact idle_of_indented hts.not_mem_equals
  · obtain ⟨task, htask, hline⟩ := List.mem_flatMap.mp hline
    have absent := not_mem_of_taskId (settled.taskId task htask)
    simp only [statusEdges, List.mem_cons, List.not_mem_nil, or_false, String.append_assoc] at hline
    rcases hline with rfl | rfl | rfl
    all_goals
      refine idle_of_indented ?_
      simp [absent]

theorem unbroken_callLine {id : String} (whole : Unbroken id.toList) :
    Unbroken (callLine id).toList := by
  rw [callLine, String.toList_append, String.toList_append]
  exact unbroken_append.mpr ⟨unbroken_append.mpr ⟨by decide, whole⟩, by decide⟩

/-- Below its fixed lines, the ending of a script binds nothing. -/
theorem Assembled.exists_ending (settled : Settled spec graph)
    (h : Assembled files spec mode subset a tasks compiled head last) :
    ∃ others : List String, (∀ line ∈ others, Idle .block line.toList) ∧
      Lined last.toList ((endingLines mode).map String.toList ++ others.map String.toList) := by
  have ending := h.ending
  cases mode with
  | standalone =>
    have named : ∀ p ∈ (compiled.filterMap id).filterMap (·.entryPoint), TaskId p := by
      rw [entryPoints_eq h.compiles]
      intro p hp
      obtain ⟨task, htask, rfl⟩ := List.mem_map.mp hp
      exact settled.taskId task (mem_of_selectTasks h.selects task (List.mem_of_mem_filter htask))
    obtain rfl := Except.ok.inj ((entryPoint_eq _).symm.trans ending)
    refine ⟨_, List.forall_mem_map.mpr fun p hp => idle_callLine (named p hp), ?_⟩
    rw [ofLines, ← List.map_append]
    refine lined_join (List.forall_mem_append.mpr ⟨unbroken_entryPointLines, ?_⟩)
    exact List.forall_mem_map.mpr fun p hp => unbroken_callLine (named p hp).printable.unbroken
  | deployable =>
    obtain ⟨text, wired, ending⟩ := bind_eq_ok_iff.mp ending
    obtain rfl := Except.ok.inj ((wiring_eq spec).symm.trans wired)
    obtain rfl := Except.ok.inj ending
    refine ⟨_, idle_wiringLines settled, ?_⟩
    rw [String.toList_append]
    exact lined_telemetry.append (lined_join (unbroken_wiringLines settled))

/-- What a script binds: what stands above the code of its tasks, the ids of the tasks and what the
fixed lines of its ending bind. -/
theorem Assembled.bindings_eq (settled : Settled spec graph)
    (h : Assembled files spec mode subset a tasks compiled head last) :
    bindings .margin (linesOf a.source) =
      bindings .margin (linesOf (String.join [prelude, helpers, head])) ++
        (tasks.flatMap (boundBy mode) ++
          bindings (codePlace mode) ((endingLines mode).map String.toList)) := by
  obtain ⟨above, linedAbove, reads⟩ := reads_above settled h.heading
  obtain ⟨pieces, contributed, linedCodes⟩ := h.exists_pieces settled
  obtain ⟨others, idle, linedLast⟩ := h.exists_ending settled
  have wellNamed : ∀ task ∈ tasks, TaskId task.id :=
    fun task htask => settled.taskId task (mem_of_selectTasks h.selects task htask)
  obtain ⟨stays, binds⟩ := bindings_codes wellNamed contributed
  have text : a.source.toList = (String.join [prelude, helpers, head]).toList ++
      ((compiled.map codeOf).flatten ++ last.toList) := by
    rw [h.source, toList_join_codes, String.toList_join]
    simp
  have lined : Lined a.source.toList (above ++ (pieces.flatten ++
      ((endingLines mode).map String.toList ++ others.map String.toList))) := by
    rw [text]
    exact linedAbove.append (linedCodes.append linedLast)
  have nothing : bindings .block (others.map String.toList) = [] :=
    bindings_of_idle (List.forall_mem_map.mpr idle)
  rw [bindings_linesOf lined, bindings_linesOf linedAbove, bindings_append, reads.leads,
    bindings_append, stays, binds, bindings_append, (reads_ending mode).leads, nothing,
    List.append_nil]

end Scripts

def linesFor (name : String) (bound : List (String × List Char)) : List (List Char) :=
  (bound.filter (·.1 = name)).map (·.2)

/-- The lines of a script that bind a name, in their order. -/
def binders (source name : String) : List (List Char) :=
  linesFor name (bindings .margin (linesOf source))

/-- The names that a script binds, in their order. -/
def boundNames (source : String) : List String :=
  (bindings .margin (linesOf source)).map (·.1)

def withoutTasks (spec : Spec) : Spec :=
  { spec with tasks := [], dependencies := [] }

/-- The names of a script keep their meaning: a name that the fixed text of the script binds is bound
by the same lines as it is without any tasks, and the code of each task binds the id of the task. -/
structure NamesKept (mode : Mode) (tasks : List Task) (source bare : String) : Prop where
  own : ∀ name ∈ ownNames mode, binders source name = binders bare name
  bound : ∀ task ∈ tasks, (templateFor mode task.kind).isSome = true →
    (openingLine mode task.kind task.id).toList ∈ binders source task.id

section Names

variable {files : Files.Tree} {spec : Spec} {graph : Workflow.Dependency.Graph} {mode : Mode}
  {subset : List String} {a : Artifact} {task : Task} {tasks : List Task}
  {compiled : List (Option Fragment)} {head last : String} {name : String} {line : List Char}
  {bound others : List (String × List Char)}

theorem linesFor_append (name : String) (bound others : List (String × List Char)) :
    linesFor name (bound ++ others) = linesFor name bound ++ linesFor name others := by
  rw [linesFor, List.filter_append, List.map_append]
  rfl

theorem mem_linesFor : line ∈ linesFor name bound ↔ (name, line) ∈ bound := by
  simp [linesFor]

theorem leadingName_of_taskId {id : String} (wellNamed : TaskId id) :
    leadingName id.toList = if id ∈ reservedWords then [] else [id] := by
  have whole : id.toList.takeWhile isWordCharacter = id.toList :=
    List.takeWhile_eq_self_iff.mpr (isWordCharacter_of_taskId wellNamed)
  simp [leadingName, whole, wellNamed.ne_nil]

theorem mem_boundBy (wellNamed : TaskId task.id) : (name, line) ∈ boundBy mode task ↔
    (templateFor mode task.kind).isSome = true ∧ task.id ∉ reservedWords ∧ name = task.id ∧
      line = (openingLine mode task.kind task.id).toList := by
  rw [boundBy, leadingName_of_taskId wellNamed]
  split
  · split <;> simp_all
  · simp_all

/-- No name of a script is a word that is no name. -/
theorem not_reserved_of_mem_ownNames (mode : Mode) :
    ∀ name ∈ ownNames mode, name ∉ reservedWords := by
  cases mode <;> decide

theorem settled_withoutTasks (settled : Settled spec graph) :
    ∃ none, Settled (withoutTasks spec) none := by
  have sound : Workflow.Sound [] [] := {
    distinct := List.nodup_nil
    wellNamed := List.forall_mem_nil _
    declared := List.forall_mem_nil _
    acyclic := by
      intro id loop
      obtain ⟨_, first, _⟩ := Relation.TransGen.head'_iff.mp loop
      obtain ⟨_, hmem, _⟩ := first
      cases hmem }
  obtain ⟨g, built⟩ := sound.exists_graph
  exact ⟨g, {
    environment := settled.environment
    ids := List.forall_mem_nil _
    startDate := settled.startDate
    queries := List.forall_mem_nil _
    passes := Workflow.validate_eq_ok_iff.mpr ⟨⟨_, settled.startDate⟩, sound, built⟩
    edges := (Workflow.Dependency.Graph.ofExpressions_spec built).2 }⟩

/-- There is a script without any tasks, under the same heading. -/
theorem exists_bare (files : Files.Tree) (made : heading spec mode = .ok head) :
    ∃ bare last, assemble files (withoutTasks spec) mode [] = .ok bare ∧
      Assembled files (withoutTasks spec) mode [] bare [] [] head last := by
  have same : heading (withoutTasks spec) mode = .ok head := by
    cases mode <;> exact made
  have selects : selectTasks (withoutTasks spec) mode [] = .ok [] := by
    simp [selectTasks, withoutTasks]
  obtain ⟨last, ends⟩ : ∃ last, ending (withoutTasks spec) mode [] = .ok last := by
    cases mode with
    | standalone => exact ⟨_, entryPoint_eq _⟩
    | deployable => exact ⟨_, bind_eq_ok_iff.mpr ⟨_, wiring_eq _, rfl⟩⟩
  exact ⟨_, last, assemble_eq_ok same selects .nil ends,
    ⟨same, selects, .nil, ends, rfl, rfl, rfl⟩⟩

/-- What the fixed text of a script binds has the names of the script itself. -/
theorem map_fst_fixed (settled : Settled spec graph) (made : heading spec mode = .ok head) :
    (bindings .margin (linesOf (String.join [prelude, helpers, head])) ++
      bindings (codePlace mode) ((endingLines mode).map String.toList)).map (·.1) =
      ownNames mode := by
  obtain ⟨above, lined, reads⟩ := reads_above settled made
  rw [bindings_linesOf lined, List.map_append, reads.binds, (reads_ending mode).binds, ownNames]

theorem mem_flatMap_boundBy (wellNamed : ∀ task ∈ tasks, TaskId task.id) :
    (name, line) ∈ tasks.flatMap (boundBy mode) ↔ ∃ task ∈ tasks,
      (templateFor mode task.kind).isSome = true ∧ task.id ∉ reservedWords ∧ name = task.id ∧
        line = (openingLine mode task.kind task.id).toList := by
  rw [List.mem_flatMap]
  exact exists_congr fun task => and_congr_right fun htask => mem_boundBy (wellNamed task htask)

section Kept

variable {source bare : String} {above below : List (String × List Char)}

/-- No script binds a word that is no name. -/
theorem not_reserved_of_mem_bindings (wellNamed : ∀ task ∈ tasks, TaskId task.id)
    (fixed : (above ++ below).map (·.1) = ownNames mode)
    (hbound : (name, line) ∈ above ++ (tasks.flatMap (boundBy mode) ++ below)) :
    name ∉ reservedWords := by
  have own : (name, line) ∈ above ++ below → name ∉ reservedWords := by
    intro hfixed
    refine not_reserved_of_mem_ownNames mode name ?_
    rw [← fixed]
    exact List.mem_map_of_mem (f := (·.1)) hfixed
  rcases List.mem_append.mp hbound with habove | hbound
  · exact own (List.mem_append_left _ habove)
  rcases List.mem_append.mp hbound with htask | hbelow
  · obtain ⟨task, _, _, free, rfl, _⟩ := (mem_flatMap_boundBy wellNamed).mp htask
    exact free
  · exact own (List.mem_append_right _ hbelow)

/-- A task that bears a name of the script binds it anew, and one that bears a word that is no name
binds nothing. -/
theorem NamesKept.apart (kept : NamesKept mode tasks source bare)
    (wellNamed : ∀ task ∈ tasks, TaskId task.id)
    (fixed : (above ++ below).map (·.1) = ownNames mode)
    (full : bindings .margin (linesOf source) = above ++ (tasks.flatMap (boundBy mode) ++ below))
    (empty : bindings .margin (linesOf bare) = above ++ below) (htask : task ∈ tasks)
    (coded : (templateFor mode task.kind).isSome = true) :
    task.id ∉ ownNames mode ∧ task.id ∉ reservedWords := by
  constructor
  · intro captured
    have same := kept.own task.id captured
    rw [binders, binders, full, empty, linesFor_append, linesFor_append, linesFor_append] at same
    have nothing : linesFor task.id (tasks.flatMap (boundBy mode)) = [] := by
      simpa using List.append_cancel_left same
    have again : (openingLine mode task.kind task.id).toList ∈
        linesFor task.id (tasks.flatMap (boundBy mode)) :=
      mem_linesFor.mpr ((mem_flatMap_boundBy wellNamed).mpr
        ⟨task, htask, coded, not_reserved_of_mem_ownNames mode _ captured, rfl, rfl⟩)
    rw [nothing] at again
    cases again
  · have bound := mem_linesFor.mp (kept.bound task htask coded)
    rw [full] at bound
    exact not_reserved_of_mem_bindings wellNamed fixed bound

theorem namesKept_of_apart (wellNamed : ∀ task ∈ tasks, TaskId task.id)
    (full : bindings .margin (linesOf source) = above ++ (tasks.flatMap (boundBy mode) ++ below))
    (empty : bindings .margin (linesOf bare) = above ++ below)
    (apart : ∀ task ∈ tasks, (templateFor mode task.kind).isSome = true →
      task.id ∉ ownNames mode ∧ task.id ∉ reservedWords) : NamesKept mode tasks source bare where
  own := by
    intro name hname
    have nothing : linesFor name (tasks.flatMap (boundBy mode)) = [] := by
      refine List.eq_nil_iff_forall_not_mem.mpr fun line hline => ?_
      obtain ⟨task, htask, coded, _, rfl, _⟩ :=
        (mem_flatMap_boundBy wellNamed).mp (mem_linesFor.mp hline)
      exact (apart task htask coded).1 hname
    rw [binders, binders, full, empty, linesFor_append, linesFor_append, linesFor_append, nothing,
      List.nil_append]
  bound := by
    intro task htask coded
    rw [binders, full]
    refine mem_linesFor.mpr (List.mem_append_right _ (List.mem_append_left _ ?_))
    exact (mem_flatMap_boundBy wellNamed).mpr
      ⟨task, htask, coded, (apart task htask coded).2, rfl, rfl⟩

end Kept

/-- Without any tasks, a script binds its own names. With the tasks of an accepted specification,
these names keep their meaning exactly if no task that has code bears one of them, or a word that is
no name. -/
theorem names_kept_iff {sources : Files.Tree} {path : String} {loaded : Workflow.Loaded}
    (accepted : Workflow.load sources path = .ok loaded)
    (assembled : assemble files loaded.spec mode subset = .ok a) :
    ∃ tasks bare, selectTasks loaded.spec mode subset = .ok tasks ∧
      assemble files (withoutTasks loaded.spec) mode [] = .ok bare ∧
      boundNames bare.source = ownNames mode ∧
      (NamesKept mode tasks a.source bare.source ↔
        ∀ task ∈ tasks, (templateFor mode task.kind).isSome = true →
          task.id ∉ ownNames mode ∧ task.id ∉ reservedWords) := by
  have settled := Workflow.settled_of_load accepted
  obtain ⟨tasks, compiled, head, last, made⟩ := assembled_of_assemble assembled
  obtain ⟨bare, _, bareAssembled, bareMade⟩ := exists_bare files made.heading
  obtain ⟨_, bareSettled⟩ := settled_withoutTasks settled
  have wellNamed : ∀ task ∈ tasks, TaskId task.id :=
    fun task htask => settled.taskId task (mem_of_selectTasks made.selects task htask)
  have full := made.bindings_eq settled
  have empty := bareMade.bindings_eq bareSettled
  rw [List.flatMap_nil, List.nil_append] at empty
  have fixed := map_fst_fixed settled made.heading
  refine ⟨tasks, bare, made.selects, bareAssembled, ?_, fun kept task htask coded => ?_,
    namesKept_of_apart wellNamed full empty⟩
  · rw [boundNames, empty, fixed]
  · exact kept.apart wellNamed fixed full empty htask coded

/-- Two queries that bear names of their own. -/
theorem names_kept_iff_queries :
    let files := Workflow.besideQueries ["ab", "cd"] ["ab >> cd"]
    ∃ loaded a bare, Workflow.load files "/w" = .ok loaded ∧
      loaded.spec.tasks.map (·.id) = ["ab", "cd"] ∧
      assemble files loaded.spec .deployable [] = .ok a ∧
      assemble files (withoutTasks loaded.spec) .deployable [] = .ok bare ∧
      NamesKept .deployable loaded.spec.tasks a.source bare.source := by
  intro files
  have ran : (do
      let loaded ← (Workflow.loadDocument files "/w" "/"
        (Workflow.queries ["ab", "cd"] ["ab >> cd"])).toOption
      let _ ← (assemble files loaded.spec .deployable []).toOption
      some (loaded.spec.tasks.map (·.id))) = some ["ab", "cd"] := by decide +kernel
  simp only [Option.bind_eq_bind, Option.bind_eq_some_iff, toOption_eq_some_iff,
    Option.some.injEq] at ran
  obtain ⟨loaded, accepted, a, assembled, ids⟩ := ran
  rw [← Workflow.load_besideQueries] at accepted
  obtain ⟨tasks, bare, selects, without, _, kept⟩ := names_kept_iff accepted assembled
  obtain rfl : loaded.spec.tasks = tasks := Except.ok.inj selects
  refine ⟨loaded, a, bare, accepted, ids, assembled, without, kept.mpr fun task htask _ => ?_⟩
  have apart : ∀ id ∈ loaded.spec.tasks.map (·.id),
      id ∉ ownNames .deployable ∧ id ∉ reservedWords := by
    rw [ids]
    decide
  exact apart task.id (List.mem_map_of_mem htask)

/-- A query that is called like the helper that runs queries binds this name anew, and one that is
called like a reserved word binds nothing; both are accepted. -/
theorem helper_rebound :
    let files := Workflow.besideQueries ["execute_gbq", "if"] []
    ∃ loaded a, Workflow.load files "/w" = .ok loaded ∧
      loaded.spec.tasks.map (·.id) = ["execute_gbq", "if"] ∧
      assemble files loaded.spec .standalone [] = .ok a ∧
      (binders a.source "execute_gbq").getLast? = some "def execute_gbq():".toList ∧
      binders a.source "if" = [] := by
  intro files
  have ran : (do
      let loaded ← (Workflow.loadDocument files "/w" "/"
        (Workflow.queries ["execute_gbq", "if"] [])).toOption
      let _ ← (assemble files loaded.spec .standalone []).toOption
      some (loaded.spec.tasks.map fun task => (task.id, task.kind))) =
      some [("execute_gbq", .query), ("if", .query)] := by decide +kernel
  simp only [Option.bind_eq_bind, Option.bind_eq_some_iff, toOption_eq_some_iff,
    Option.some.injEq] at ran
  obtain ⟨loaded, accepted, a, assembled, kinds⟩ := ran
  rw [← Workflow.load_besideQueries] at accepted
  have settled := Workflow.settled_of_load accepted
  obtain ⟨tasks, compiled, head, last, made⟩ := assembled_of_assemble assembled
  obtain rfl : loaded.spec.tasks = tasks := Except.ok.inj made.selects
  have ids : loaded.spec.tasks.map (·.id) = ["execute_gbq", "if"] := by
    have names := congrArg (List.map (·.1)) kinds
    rwa [List.map_map] at names
  have full := made.bindings_eq settled
  have fixed := map_fst_fixed settled made.heading
  refine ⟨loaded, a, accepted, ids, assembled, ?_, ?_⟩
  · have own : loaded.spec.tasks.flatMap (boundBy .standalone) =
        [("execute_gbq", "def execute_gbq():".toList)] := by
      obtain ⟨first, _, split, here, later⟩ := List.map_eq_cons_iff.mp kinds
      obtain ⟨second, _, rfl, there, later⟩ := List.map_eq_cons_iff.mp later
      obtain rfl := List.map_eq_nil_iff.mp later
      rw [Prod.mk.injEq] at here there
      simp only [split, List.flatMap_cons, List.flatMap_nil, boundBy, here, there]
      decide +kernel
    have below : linesFor "execute_gbq"
        (bindings .procedure (entryPointLines.map String.toList)) = [] := by
      refine List.eq_nil_iff_forall_not_mem.mpr fun line hline => ?_
      have named := List.mem_map_of_mem (f := (·.1)) (mem_linesFor.mp hline)
      rw [reads_entryPoint.binds] at named
      exact absurd named (by decide : "execute_gbq" ∉ ["root", "handler"])
    have last : linesFor "execute_gbq" [("execute_gbq", "def execute_gbq():".toList)] =
        ["def execute_gbq():".toList] := by
      simp [linesFor]
    rw [binders, full, own, linesFor_append, linesFor_append, codePlace, endingLines, below, last,
      List.append_nil, List.getLast?_concat]
  · refine List.eq_nil_iff_forall_not_mem.mpr fun line hline => ?_
    rw [binders, full] at hline
    exact not_reserved_of_mem_bindings (fun task htask => settled.taskId task htask) fixed
      (mem_linesFor.mp hline) (by decide)

end Names

end WorkflowCompiler.Script
