import WorkflowCompiler.Proofs.Script.Compiled
import WorkflowCompiler.Proofs.Script.Fixed
import WorkflowCompiler.Proofs.Workflow.Accepted

/-!
The lines of whole scripts. A script has the lines of its fixed parts, of its header, of the code
of each task it is made of and of its ending, one after another, because none of the values that a
settled specification puts into raw holes breaks a line.
-/
namespace WorkflowCompiler.Script

open Json (Value Members)
open Workflow (Spec Task Kind Settled)

variable {files : Files.Tree} {spec : Spec} {graph : Workflow.Dependency.Graph} {mode : Mode}
  {subset : List String}

def codeOf (f? : Option Fragment) : List Char :=
  (f?.map (·.code.toList)).getD []

/-- The lines that a task contributes to a script: those of its template, or none if there is no
code for it in the mode. -/
inductive Contributes (files : Files.Tree) (ctx : Context) (mode : Mode) (task : Task) :
    Option Fragment → List (List Char) → Prop
  | nothing : templateFor mode task.kind = none → Contributes files ctx mode task none []
  | code {t : Template} {f : Fragment} {lines : List (List Char)} :
      templateFor mode task.kind = some t → Compiled files ctx mode task t f →
      lines.length = t.heightWith (documented files ctx task) → Lined f.code.toList lines →
      Contributes files ctx mode task (some f) lines

theorem Contributes.lined {ctx : Context} {task : Task} {f? : Option Fragment}
    {lines : List (List Char)} (h : Contributes files ctx mode task f? lines) :
    Lined (codeOf f?) lines := by
  cases h with
  | nothing => exact .nil
  | code _ _ _ lined => exact lined

theorem contributes_of_compileTask {ctx : Context} {task : Task} {f? : Option Fragment}
    (whole : Unbroken task.id.toList) (h : compileTask ctx files mode task = .ok f?) :
    ∃ lines, Contributes files ctx mode task f? lines := by
  rcases compiled_of_compileTask h with ⟨without, rfl⟩ | ⟨t, f, ht, rfl, compiled⟩
  · exact ⟨[], .nothing without⟩
  · obtain ⟨values, rendered, named, height⟩ := compiled.code
    obtain ⟨lines, cut, lined⟩ := Template.render_lined
      (tidy_templates t (mem_all_of_templateFor ht))
      (fun part hpart => rawsUnbroken_of_forTask named whole (forTask_of_templateFor ht part hpart))
      rendered
    exact ⟨lines, .code ht compiled ((Template.length_lines cut).trans height) lined⟩

def heading (spec : Spec) : Mode → Except BuildError String
  | .standalone => .ok ""
  | .deployable => header spec

structure Assembled (files : Files.Tree) (spec : Spec) (mode : Mode) (subset : List String)
    (a : Artifact) (tasks : List Task) (compiled : List (Option Fragment))
    (head last : String) : Prop where
  heading : heading spec mode = .ok head
  selects : selectTasks spec mode subset = .ok tasks
  compiles : List.Forall₂ (fun task f? => compileTask (.ofSpec spec) files mode task = .ok f?)
    tasks compiled
  ending : ending spec mode (compiled.filterMap id) = .ok last
  source : a.source = String.join ([prelude, helpers, head] ++
    (compiled.filterMap id).map (·.code) ++ [last])
  updates : a.spec = updateSpec spec (compiled.filterMap id)
  named : a.deploymentName = spec.deploymentName

theorem assembled_of_assemble {a : Artifact} (h : assemble files spec mode subset = .ok a) :
    ∃ tasks compiled head last, Assembled files spec mode subset a tasks compiled head last := by
  cases mode
  all_goals
    simp only [assemble, bind_eq_ok_iff] at h
    obtain ⟨head, hhead, tasks, htasks, compiled, hcompiled, last, hlast, h⟩ := h
    obtain rfl := Except.ok.inj h
    exact ⟨tasks, compiled, head, last, hhead, htasks, mapM_eq_ok_iff.mp hcompiled, hlast,
      by dsimp only, rfl, rfl⟩

theorem assemble_eq_ok {head last : String} (hhead : heading spec mode = .ok head)
    {rendered : List Task}
    {compiled : List (Option Fragment)} (selects : selectTasks spec mode subset = .ok rendered)
    (compiles : List.Forall₂ (fun task f? => compileTask (.ofSpec spec) files mode task = .ok f?)
      rendered compiled) (hlast : ending spec mode (compiled.filterMap id) = .ok last) :
    assemble files spec mode subset = .ok {
      mode
      deploymentName := spec.deploymentName
      source := String.join ([prelude, helpers, head] ++ (compiled.filterMap id).map (·.code) ++
        [last])
      spec := updateSpec spec (compiled.filterMap id) } := by
  cases mode
  all_goals
    simp only [heading] at hhead
    simp only [assemble, bind_eq_ok_iff]
    exact ⟨head, hhead, rendered, selects, compiled, mapM_eq_ok_iff.mpr compiles, last, hlast, rfl⟩

theorem toList_join_codes (head last : String) (compiled : List (Option Fragment)) :
    (String.join ([prelude, helpers, head] ++ (compiled.filterMap id).map (·.code) ++
      [last])).toList =
      prelude.toList ++ (helpers.toList ++ (head.toList ++
        ((compiled.map codeOf).flatten ++ last.toList))) := by
  have codes : (compiled.map codeOf).flatten =
      ((compiled.filterMap id).map (·.code)).flatMap String.toList := by
    induction compiled with
    | nil => rfl
    | cons f? compiled ih => cases f? <;> simp [codeOf, ih]
  rw [codes]
  simp [String.toList_join]

/-- The position of the first task with the id that an entry of a run-list names. -/
def position (spec : Spec) (entry : String) : Nat :=
  spec.tasks.findIdx (·.id == Text.trim entry)

def picked (spec : Spec) (mode : Mode) (subset : List String) : List Nat :=
  if mode = .deployable ∨ subset = [] then List.range spec.tasks.length
  else subset.map (position spec)

/-- The tasks of a script are those at the positions picked. -/
theorem map_some_of_selectTasks {tasks : List Task} (h : selectTasks spec mode subset = .ok tasks) :
    tasks.map some = (picked spec mode subset).map (spec.tasks[·]?) := by
  rw [selectTasks] at h
  rw [picked]
  split at h
  · next all =>
    cases h
    rw [if_pos all]
    refine List.ext_getElem? fun i => ?_
    by_cases inside : i < spec.tasks.length
    · simp [inside]
    · simp [inside]
  · next chosen =>
    rw [if_neg chosen, List.map_map]
    replace h := mapM_eq_ok_iff.mp h
    clear chosen
    induction h with
    | nil => rfl
    | @cons entry task _ _ first _ ih =>
      have found : spec.task? (Text.trim entry) = some task := by
        cases known : spec.task? (Text.trim entry) with
        | none => simp [known] at first
        | some other => simpa [known] using first
      rw [Spec.task?, List.find?_eq_getElem?_findIdx] at found
      rw [List.map_cons, List.map_cons, ih]
      exact congrArg (· :: _) found.symm

theorem mem_of_selectTasks {tasks : List Task} (h : selectTasks spec mode subset = .ok tasks) :
    ∀ task ∈ tasks, task ∈ spec.tasks := by
  intro task htask
  have there : some task ∈ (picked spec mode subset).map (spec.tasks[·]?) :=
    map_some_of_selectTasks h ▸ List.mem_map_of_mem htask
  obtain ⟨i, _, found⟩ := List.mem_map.mp there
  exact List.mem_of_getElem? found

theorem unbroken_shown_ofNat (n : Nat) : Unbroken (shown (.ofNat n)) :=
  (Json.allPrintable_integer n).unbroken

/-- The raw holes of the header are numbers and the canonical start date. -/
theorem exists_lines_header (settled : Settled spec graph) {head : String}
    (h : header spec = .ok head) : ∃ values lines, Templates.deployHeader.lines values = .ok lines ∧
      values.get? "dag_name" = some (.text spec.deploymentName) ∧ Lined head.toList lines := by
  have fixed := tidy_templates Templates.deployHeader (by simp [Templates.all])
  obtain ⟨values, same, named, retries, delay, start, concurrency, runs⟩ :
      ∃ values, header spec = Templates.deployHeader.render values ∧
        values.get? "dag_name" = some (.text spec.deploymentName) ∧
        values.get? "retries" = some (.ofNat 1) ∧
        values.get? "retry_delay_minutes" = some (.ofNat 2) ∧
        values.get? "start_date" = some (.text spec.startDate) ∧
        values.get? "task_concurrency" = some (.ofNat spec.taskConcurrency) ∧
        values.get? "max_active_runs" = some (.ofNat spec.maxActiveRuns) :=
    ⟨_, rfl, rfl, rfl, rfl, rfl, rfl, rfl⟩
  have safe : ∀ part ∈ Templates.deployHeader.parts, part.RawsUnbroken values := by
    intro part hpart
    simp only [Templates.deployHeader, List.mem_singleton] at hpart
    subst hpart
    intro name v hname found
    simp only [List.mem_cons, Hole.raw.injEq, reduceCtorEq, List.not_mem_nil, or_false,
      false_or] at hname
    rcases hname with rfl | rfl | rfl | rfl | rfl
    · cases retries.symm.trans found
      exact unbroken_shown_ofNat _
    · cases delay.symm.trans found
      exact unbroken_shown_ofNat _
    · cases start.symm.trans found
      exact settled.unbroken_startDate
    · cases concurrency.symm.trans found
      exact unbroken_shown_ofNat _
    · cases runs.symm.trans found
      exact unbroken_shown_ofNat _
  obtain ⟨lines, cut, lined⟩ := Template.render_lined fixed safe (same ▸ h)
  exact ⟨values, lines, cut, named, lined⟩

/-- An item of a loop over texts is shown as it is. -/
theorem rawsUnbroken_each {values : Members} {item list : String} {body : List Hole}
    {texts : List String} (found : values.get? list = some (.texts texts))
    (only : ∀ name, .raw name ∈ body → name = item)
    (whole : ∀ text ∈ texts, Unbroken text.toList) :
    (Part.each item list body).RawsUnbroken values := by
  intro items known v hv name w hname hw
  rw [found] at known
  cases known
  obtain ⟨text, htext, rfl⟩ := List.mem_map.mp hv
  rw [only name hname, Members.get?] at hw
  simp only [List.find?_cons, beq_self_eq_true, Option.map_some, Option.some.injEq] at hw
  subst hw
  exact whole text htext

/-- How many lines a template has whose loops run so many times. -/
def Template.heightFor (t : Template) (count : String → Nat) : Nat :=
  (t.parts.map fun part => match part with
    | .each _ list body => count list * (cutLines body).length
    | part => (cutLines part.body).length).sum

/-- A template that leaves nothing out has as many lines as its lists have items. -/
theorem height_eq_heightFor {t : Template} {values : Members} {count : String → Nat}
    (parts : ∀ part ∈ t.parts, ∀ name body, part ≠ .whenSet name body)
    (loops : ∀ item list body, .each item list body ∈ t.parts →
      ∃ texts : List String, values.get? list = some (.texts texts) ∧ texts.length = count list) :
    t.height values = t.heightFor count := by
  rw [Template.height, Template.heightFor]
  congr 1
  refine List.map_congr_left fun part hpart => ?_
  cases part with
  | holes body => rfl
  | whenSet name body => exact absurd rfl (parts _ hpart name body)
  | each item list body =>
    obtain ⟨texts, found, length⟩ := loops item list body hpart
    simp only [Part.height, found, Option.bind_some, Value.texts, itemsOf?, Option.getD_some,
      List.length_map, length]

theorem exists_lines_entryPoint {procedures : List String} {last : String}
    (whole : ∀ p ∈ procedures, Unbroken p.toList) (h : entryPoint procedures = .ok last) :
    ∃ lines, Lined last.toList lines ∧
      lines.length = Templates.localMain.heightFor fun _ => procedures.length := by
  have fixed := tidy_templates Templates.localMain (by simp [Templates.all])
  have safe : ∀ part ∈ Templates.localMain.parts,
      part.RawsUnbroken [("procedures", .texts procedures)] := by
    simp only [Templates.localMain, List.forall_mem_cons, List.not_mem_nil, false_imp_iff,
      implies_true, and_true]
    refine ⟨fun name v hname => ?_, rawsUnbroken_each rfl (fun name hname => ?_) whole⟩
    · simp at hname
    · simpa using hname
  obtain ⟨lines, cut, lined⟩ := Template.render_lined fixed safe h
  refine ⟨lines, lined, (Template.length_lines cut).trans (height_eq_heightFor ?_ ?_)⟩
  · simp [Templates.localMain]
  · intro item list body hmem
    simp only [Templates.localMain, List.mem_cons, Part.each.injEq, reduceCtorEq,
      List.not_mem_nil, or_false, false_or] at hmem
    rw [hmem.2.1]
    exact ⟨procedures, rfl, rfl⟩

def wiringCount (dependencies nodes : Nat) (list : String) : Nat :=
  if list = "dependency_lines" then dependencies else nodes

theorem exists_lines_wiring (settled : Settled spec graph) {last : String}
    (h : wiring spec = .ok last) : ∃ lines, Lined last.toList lines ∧ lines.length =
      Templates.wiring.heightFor (wiringCount spec.dependencies.length spec.tasks.length) := by
  have fixed := tidy_templates Templates.wiring (by simp [Templates.all])
  have safe : ∀ part ∈ Templates.wiring.parts, part.RawsUnbroken [
      ("dependency_lines", .texts spec.dependencies),
      ("task_ids", .texts (spec.tasks.map (·.id)))] := by
    simp only [Templates.wiring, List.forall_mem_cons, List.not_mem_nil, false_imp_iff,
      implies_true, and_true]
    refine ⟨fun name v hname => ?_,
      rawsUnbroken_each rfl (fun name hname => ?_) settled.unbroken_dependency,
      rawsUnbroken_each rfl (fun name hname => ?_) (List.forall_mem_map.mpr settled.unbroken_id)⟩
    · simp at hname
    · simpa using hname
    · simpa using hname
  obtain ⟨lines, cut, lined⟩ := Template.render_lined fixed safe h
  refine ⟨lines, lined, (Template.length_lines cut).trans (height_eq_heightFor ?_ ?_)⟩
  · simp [Templates.wiring]
  · intro item list body hmem
    simp only [Templates.wiring, List.mem_cons, Part.each.injEq, reduceCtorEq,
      List.not_mem_nil, or_false, false_or] at hmem
    rcases hmem with ⟨_, rfl, _⟩ | ⟨_, rfl, _⟩
    · exact ⟨spec.dependencies, rfl, rfl⟩
    · exact ⟨spec.tasks.map (·.id), rfl, List.length_map _⟩

/-- The procedures that a local script calls are those of its tasks that have code. -/
theorem entryPoints_eq {ctx : Context} {tasks : List Task} {compiled : List (Option Fragment)}
    (h : List.Forall₂ (fun task f? => compileTask ctx files .standalone task = .ok f?)
      tasks compiled) :
    (compiled.filterMap id).filterMap (·.entryPoint) =
      (tasks.filter fun task => (templateFor .standalone task.kind).isSome).map (·.id) := by
  induction h with
  | nil => rfl
  | @cons task f? _ _ first _ ih =>
    rcases compiled_of_compileTask first with ⟨without, rfl⟩ | ⟨t, f, ht, rfl, made⟩
    · simpa [without] using ih
    · have entry : f.entryPoint = some task.id := made.entryPoint
      simpa [ht, entry] using ih

def endingHeight (mode : Mode) (procedures dependencies nodes : Nat) : Nat :=
  match mode with
  | .standalone => Templates.localMain.heightFor fun _ => procedures
  | .deployable =>
    telemetryLines.length + Templates.wiring.heightFor (wiringCount dependencies nodes)

section Assembled

variable {a : Artifact} {tasks : List Task} {compiled : List (Option Fragment)}
  {head last : String}

theorem Assembled.exists_lines_ending (settled : Settled spec graph)
    (h : Assembled files spec mode subset a tasks compiled head last) :
    ∃ lines, Lined last.toList lines ∧ lines.length = endingHeight mode
      (tasks.filter fun task => (templateFor .standalone task.kind).isSome).length
      spec.dependencies.length spec.tasks.length := by
  have ending := h.ending
  cases mode with
  | standalone =>
    have procedures := entryPoints_eq h.compiles
    have whole : ∀ p ∈ (compiled.filterMap id).filterMap (·.entryPoint), Unbroken p.toList := by
      rw [procedures]
      intro p hp
      obtain ⟨task, htask, rfl⟩ := List.mem_map.mp hp
      exact settled.unbroken_id task
        (mem_of_selectTasks h.selects task (List.mem_of_mem_filter htask))
    obtain ⟨lines, lined, length⟩ := exists_lines_entryPoint whole ending
    refine ⟨lines, lined, ?_⟩
    rw [length, procedures, List.length_map]
    rfl
  | deployable =>
    obtain ⟨text, wired, ending⟩ := bind_eq_ok_iff.mp ending
    cases ending
    obtain ⟨lines, lined, length⟩ := exists_lines_wiring settled wired
    refine ⟨telemetryLines.map String.toList ++ lines, ?_, ?_⟩
    · rw [String.toList_append]
      exact lined_telemetry.append lined
    · rw [List.length_append, List.length_map, length]
      rfl

def headingHeight : Mode → Nat
  | .standalone => 0
  | .deployable => Templates.deployHeader.heightWith false

theorem Assembled.exists_lines_heading (settled : Settled spec graph)
    (h : Assembled files spec mode subset a tasks compiled head last) :
    ∃ lines, Lined head.toList lines ∧ lines.length = headingHeight mode := by
  have heading := h.heading
  cases mode with
  | standalone =>
    cases heading
    exact ⟨[], .nil, rfl⟩
  | deployable =>
    obtain ⟨values, lines, cut, _, lined⟩ := exists_lines_header settled heading
    exact ⟨lines, lined, Template.length_lines cut⟩

/-- The lines of the code of all tasks. -/
theorem Assembled.exists_pieces (settled : Settled spec graph)
    (h : Assembled files spec mode subset a tasks compiled head last) :
    ∃ pieces, List.Forall₂ (fun task lines => ∃ f?,
        compileTask (.ofSpec spec) files mode task = .ok f? ∧
        Contributes files (.ofSpec spec) mode task f? lines) tasks pieces ∧
      Lined (compiled.map codeOf).flatten pieces.flatten := by
  have whole : ∀ task ∈ tasks, Unbroken task.id.toList :=
    fun task htask => settled.unbroken_id task (mem_of_selectTasks h.selects task htask)
  have each : ∀ task ∈ tasks, ∀ f?, compileTask (.ofSpec spec) files mode task = .ok f? →
      ∃ lines, (∃ f?, compileTask (.ofSpec spec) files mode task = .ok f? ∧
        Contributes files (.ofSpec spec) mode task f? lines) ∧ Lined (codeOf f?) lines := by
    intro task htask f? made
    obtain ⟨lines, contributes⟩ := contributes_of_compileTask (whole task htask) made
    exact ⟨lines, ⟨f?, made, contributes⟩, contributes.lined⟩
  obtain ⟨pieces, contributed, linedCodes⟩ := exists_forall₂_of_forall₂ h.compiles each
  exact ⟨pieces, contributed, .flatten (List.forall₂_map_left_iff.mpr linedCodes)⟩

/-- The lines of a script, part by part. -/
theorem Assembled.exists_lines (settled : Settled spec graph)
    (h : Assembled files spec mode subset a tasks compiled head last) :
    ∃ headLines pieces lastLines,
      Lined a.source.toList (preludeLines.map String.toList ++ (helpersLines.map String.toList ++
        (headLines ++ (pieces.flatten ++ lastLines)))) ∧
      Lined head.toList headLines ∧ headLines.length = headingHeight mode ∧
      List.Forall₂ (fun task lines => ∃ f?,
        compileTask (.ofSpec spec) files mode task = .ok f? ∧
        Contributes files (.ofSpec spec) mode task f? lines) tasks pieces ∧
      lastLines.length = endingHeight mode
        (tasks.filter fun task => (templateFor .standalone task.kind).isSome).length
        spec.dependencies.length spec.tasks.length := by
  obtain ⟨pieces, contributed, linedCodes⟩ := h.exists_pieces settled
  obtain ⟨headLines, linedHead, headHeight⟩ := h.exists_lines_heading settled
  obtain ⟨lastLines, linedLast, lastHeight⟩ := h.exists_lines_ending settled
  refine ⟨headLines, pieces, lastLines, ?_, linedHead, headHeight, contributed, lastHeight⟩
  rw [h.source, toList_join_codes]
  exact lined_prelude.append (lined_helpers.append (linedHead.append
    (linedCodes.append linedLast)))

end Assembled

end WorkflowCompiler.Script
