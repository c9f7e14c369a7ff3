import WorkflowCompiler.Proofs.Files.Place
import WorkflowCompiler.Proofs.Script.Modes
import WorkflowCompiler.Proofs.Workflow.Written
import WorkflowCompiler.Run.LocalRun

/-!
Run-lists. The local script of a run-list has the code of the tasks asked for, in the order and as
often as they are asked for, and calls them in this order; the code of a task is the same in every
local script. A machine launch has no code and is not called. An id that no task has is refused
before any task is compiled. What is run is this script: the interpreter is started with a path
under which it lies.
-/
namespace WorkflowCompiler.Run

/-- How a run of an artifact ends. Unless its script cannot be written, the interpreter is started
where the script is read under the path that it is started with; then what comes of the run is what
the child process writes and how it ends. -/
inductive Runs (launch : Launcher) (files : Files.Tree) (settings : Settings.Runner)
    (artifact : Script.Artifact) : Outcome → Prop
  | unwritten {fault : Files.Fault} :
      (files.set scratchLocation .directory).write
        (Files.join scratchDirectory artifact.fileName) artifact.source.toUTF8 = .error fault →
      Runs launch files settings artifact ⟨[], .error (.scratch fault), files⟩
  | unstarted {ready : Files.Tree} {fault : Files.Fault} :
      (files.set scratchLocation .directory).write
        (Files.join scratchDirectory artifact.fileName) artifact.source.toUTF8 = .ok ready →
      ready.readBytes (Files.join scratchDirectory artifact.fileName) =
        .ok artifact.source.toUTF8 →
      launch ready settings.interpreter (Files.join scratchDirectory artifact.fileName) =
        .error fault →
      Runs launch files settings artifact
        ⟨[], .error (.spawn settings.interpreter fault), ready.removeBelow scratchLocation⟩
  | followed {ready : Files.Tree} {child : Child} {lines : List Line}
      {result : Except Failure Int} :
      (files.set scratchLocation .directory).write
        (Files.join scratchDirectory artifact.fileName) artifact.source.toUTF8 = .ok ready →
      ready.readBytes (Files.join scratchDirectory artifact.fileName) =
        .ok artifact.source.toUTF8 →
      launch ready settings.interpreter (Files.join scratchDirectory artifact.fileName) =
        .ok child →
      follow (queueLength settings.lineCapacity) child = (lines, result) →
      Runs launch files settings artifact
        ⟨lines, result, child.files.removeBelow scratchLocation⟩

theorem runs_runArtifact (launch : Launcher) (files : Files.Tree) (settings : Settings.Runner)
    (artifact : Script.Artifact) :
    Runs launch files settings artifact (runArtifact launch files settings artifact) := by
  unfold runArtifact
  dsimp only
  split
  · next written => exact .unwritten written
  · next ready written =>
    have held := Files.Tree.readBytes_of_write written
    split
    · next launched => exact .unstarted written held launched
    · next child launched => exact .followed written held launched rfl

end WorkflowCompiler.Run

namespace WorkflowCompiler.Script

open Workflow (Spec Task Kind Settled)

def calls (tasks : List Task) : List String :=
  (tasks.filter (·.kind ≠ .launchMachine)).map (·.id)

/-- What stands above the entry point in a local script of these tasks. -/
def procedures (fragment : Task → Option Fragment) (tasks : List Task) : String :=
  String.join ([prelude, helpers] ++ (tasks.filterMap fragment).map (·.code))

def localScript (fragment : Task → Option Fragment) (tasks : List Task) : String :=
  procedures fragment tasks ++ ofLines (entryPointLines ++ (calls tasks).map callLine)

/-- A line of the text begins the definition of a procedure. -/
def Defines (text procedure : String) : Prop :=
  (headOf .standalone procedure).toList ∈ linesOf text

/-- There is code for all tasks but machine launches, and the script of all tasks consists of it. -/
structure Fragments (files : Files.Tree) (spec : Spec) (full : Artifact)
    (fragment : Task → Option Fragment) : Prop where
  compiles : ∀ task ∈ spec.tasks,
    compileTask (.ofSpec spec) files .standalone task = .ok (fragment task)
  none_iff : ∀ task ∈ spec.tasks, fragment task = none ↔ task.kind = .launchMachine
  source : full.source = localScript fragment spec.tasks

/-- The script of a run-list: its entries are the ids of these tasks, and each procedure that it
calls is defined above. -/
structure Listed (spec : Spec) (fragment : Task → Option Fragment) (subset : List String)
    (a : Artifact) (tasks : List Task) : Prop where
  requested : List.Forall₂ (fun entry task => task ∈ spec.tasks ∧ task.id = Text.trim entry)
    subset tasks
  source : a.source = localScript fragment tasks
  defined : ∀ procedure ∈ calls tasks, Defines (procedures fragment tasks) procedure

section Selection

variable {spec : Spec} {subset : List String} {tasks : List Task}

theorem exists_task?_iff {id : String} :
    (∃ task, spec.task? id = some task) ↔ id ∈ spec.tasks.map (·.id) := by
  rw [← Option.isSome_iff_exists, Spec.task?, List.find?_isSome]
  simp

theorem selectTasks_eq_ok_iff (nonempty : subset ≠ []) :
    selectTasks spec .standalone subset = .ok tasks ↔
      List.Forall₂ (fun entry task => spec.task? (Text.trim entry) = some task) subset tasks := by
  have listed : ¬ (Mode.standalone = .deployable ∨ subset = []) := by simp [nonempty]
  rw [selectTasks, if_neg listed, mapM_eq_ok_iff]
  constructor
  · refine List.Forall₂.imp fun entry task found => ?_
    cases known : spec.task? (Text.trim entry) with
    | none => simp [known] at found
    | some other => simpa [known] using found
  · refine List.Forall₂.imp fun entry task found => ?_
    simp only [found]

/-- The first entry that no task has for an id is refused. -/
theorem selectTasks_eq_error {id : String}
    (first : (subset.map Text.trim).find? (· ∉ spec.tasks.map (·.id)) = some id) :
    selectTasks spec .standalone subset = .error (.unknownTask id) := by
  have listed : ¬ (Mode.standalone = .deployable ∨ subset = []) := by
    rintro (other | rfl)
    · cases other
    · cases first
  rw [selectTasks, if_neg listed]
  clear listed
  induction subset with
  | nil => cases first
  | cons entry subset ih =>
    rw [List.map_cons, List.find?_cons] at first
    rw [List.mapM_cons]
    by_cases declared : Text.trim entry ∈ spec.tasks.map (·.id)
    · obtain ⟨task, found⟩ := exists_task?_iff.mpr declared
      simp only [declared, not_true_eq_false, decide_false] at first
      simp only [found, ih first, bind, Except.bind]
    · have absent : spec.task? (Text.trim entry) = none := by
        rw [Option.eq_none_iff_forall_ne_some]
        exact fun task found => declared (exists_task?_iff.mp ⟨task, found⟩)
      simp only [declared, not_false_eq_true, decide_true, Option.some.injEq] at first
      subst first
      simp only [absent, bind, Except.bind]

end Selection

section Assembly

variable {files : Files.Tree} {spec : Spec} {graph : Workflow.Dependency.Graph}
  {subset : List String} {tasks : List Task} {fragment : Task → Option Fragment} {a full : Artifact}

theorem isSome_templateFor_standalone (kind : Kind) :
    (templateFor .standalone kind).isSome = decide (kind ≠ .launchMachine) := by
  rw [Bool.eq_iff_iff, Option.isSome_iff_ne_none, ne_eq, templateFor_eq_none_iff]
  simp

theorem forall₂_map_fragment (compiles : ∀ task ∈ tasks,
      compileTask (.ofSpec spec) files .standalone task = .ok (fragment task)) :
    List.Forall₂ (fun task f? => compileTask (.ofSpec spec) files .standalone task = .ok f?)
      tasks (tasks.map fragment) := by
  rw [List.forall₂_map_right_iff, List.forall₂_same]
  exact compiles

/-- Tasks that can all be compiled make a script. -/
theorem exists_assemble (selects : selectTasks spec .standalone subset = .ok tasks)
    (compiles : ∀ task ∈ tasks,
      compileTask (.ofSpec spec) files .standalone task = .ok (fragment task)) :
    ∃ a, assemble files spec .standalone subset = .ok a := by
  obtain ⟨last, hlast⟩ := exists_ending spec .standalone ((tasks.map fragment).filterMap id)
  have compiled := mapM_eq_ok_iff.mpr (forall₂_map_fragment compiles)
  simp only [assemble, selects, compiled, hlast, bind, Except.bind]
  exact ⟨_, rfl⟩

theorem Assembled.source_eq {compiled : List (Option Fragment)} {head last : String}
    (h : Assembled files spec .standalone subset a tasks compiled head last)
    (compiles : ∀ task ∈ tasks,
      compileTask (.ofSpec spec) files .standalone task = .ok (fragment task)) :
    a.source = localScript fragment tasks := by
  have same : compiled = tasks.map fragment := by
    have mapped := mapM_eq_ok_iff.mpr (forall₂_map_fragment compiles)
    exact Except.ok.inj ((mapM_eq_ok_iff.mpr h.compiles).symm.trans mapped)
  have codes : (tasks.map fragment).filterMap id = tasks.filterMap fragment := by
    rw [List.filterMap_map]
    rfl
  have called : (tasks.filterMap fragment).filterMap (·.entryPoint) = calls tasks := by
    rw [← codes, entryPoints_eq (forall₂_map_fragment compiles), calls]
    simp only [isSome_templateFor_standalone]
  have ending : entryPoint (calls tasks) = .ok last := by
    rw [← called, ← codes, ← same]
    exact h.ending
  have empty : head = "" := (Except.ok.inj h.heading).symm
  have entry : last = ofLines (entryPointLines ++ (calls tasks).map callLine) :=
    Except.ok.inj (ending.symm.trans (entryPoint_eq _))
  rw [h.source, same, codes, empty, entry, localScript, procedures]
  apply String.toList_inj.mp
  simp only [String.toList_join, List.flatMap_append, List.flatMap_cons, List.flatMap_nil,
    String.toList_append, List.append_nil, String.toList_empty]

/-- From the script of all tasks each of them has a fragment, or none if it is a machine launch. -/
theorem exists_fragments_of_full (h : assemble files spec .standalone [] = .ok full) :
    ∃ fragment, Fragments files spec full fragment := by
  obtain ⟨tasks, compiled, head, last, made⟩ := assembled_of_assemble h
  obtain rfl : spec.tasks = tasks := Except.ok.inj made.selects
  let fragment (task : Task) : Option Fragment :=
    ((compileTask (.ofSpec spec) files .standalone task).toOption).join
  have compiles : ∀ task ∈ spec.tasks,
      compileTask (.ofSpec spec) files .standalone task = .ok (fragment task) := by
    intro task htask
    obtain ⟨f?, _, compiledTask⟩ := exists_mem_of_forall₂ made.compiles.flip task htask
    simp [fragment, compiledTask, Except.toOption]
  refine ⟨fragment, compiles, fun task htask => ?_, made.source_eq compiles⟩
  rcases compiled_of_compileTask (compiles task htask) with ⟨without, same⟩ | ⟨t, f, ht, same, _⟩
  · exact iff_of_true same (templateFor_eq_none_iff.mp without).2
  · have coded : task.kind ≠ .launchMachine := by
      intro launch
      rw [templateFor_eq_none_iff.mpr ⟨rfl, launch⟩] at ht
      cases ht
    exact iff_of_false (by simp [same]) coded

theorem Fragments.exists_lined (h : Fragments files spec full fragment)
    (settled : Settled spec graph) (known : ∀ task ∈ tasks, task ∈ spec.tasks) :
    ∀ text ∈ [prelude, helpers] ++ (tasks.filterMap fragment).map (·.code),
      ∃ lines, Lined text.toList lines := by
  intro text htext
  rcases List.mem_append.mp htext with fixed | code
  · rcases List.mem_pair.mp fixed with rfl | rfl
    · exact ⟨_, lined_prelude⟩
    · exact ⟨_, lined_helpers⟩
  · obtain ⟨f, hf, rfl⟩ := List.mem_map.mp code
    obtain ⟨task, htask, made⟩ := List.mem_filterMap.mp hf
    have whole := settled.unbroken_id task (known task htask)
    exact exists_lined_code whole (made ▸ h.compiles task (known task htask))

/-- The procedures that a script calls are defined above. -/
theorem Fragments.defines (h : Fragments files spec full fragment) (settled : Settled spec graph)
    (known : ∀ task ∈ tasks, task ∈ spec.tasks) :
    ∀ procedure ∈ calls tasks, Defines (procedures fragment tasks) procedure := by
  intro procedure hprocedure
  obtain ⟨task, hcalled, rfl⟩ := List.mem_map.mp hprocedure
  obtain ⟨htask, coded⟩ := List.mem_filter.mp hcalled
  have declared := known task htask
  rcases compiled_of_compileTask (h.compiles task declared) with
    ⟨_, absent⟩ | ⟨t, f, ht, made, compiled⟩
  · rw [decide_eq_true_eq] at coded
    exact absurd ((h.none_iff task declared).mp absent) coded
  · have opening := compiled.openingLine_mem ht (settled.unbroken_id task declared)
    have code : f.code ∈ [prelude, helpers] ++ (tasks.filterMap fragment).map (·.code) :=
      List.mem_append_right _ (List.mem_map_of_mem (List.mem_filterMap.mpr ⟨task, htask, made⟩))
    exact mem_linesOf_join (h.exists_lined settled known) code opening

theorem listed_of_assemble (h : Fragments files spec full fragment) (settled : Settled spec graph)
    (nonempty : subset ≠ []) (assembled : assemble files spec .standalone subset = .ok a) :
    ∃ tasks, Listed spec fragment subset a tasks := by
  obtain ⟨tasks, compiled, head, last, made⟩ := assembled_of_assemble assembled
  have known := mem_of_selectTasks made.selects
  refine ⟨tasks, ?_, made.source_eq fun task htask => h.compiles task (known task htask),
    h.defines settled known⟩
  refine ((selectTasks_eq_ok_iff nonempty).mp made.selects).imp fun entry task found => ?_
  have named := List.find?_some (p := fun task : Task => task.id == Text.trim entry) found
  exact ⟨List.mem_of_find?_eq_some found, beq_iff_eq.mp named⟩

/-- A run-list makes a script if it asks for nothing but tasks of the specification. -/
theorem exists_assemble_iff (h : Fragments files spec full fragment) (nonempty : subset ≠ []) :
    (∃ a, assemble files spec .standalone subset = .ok a) ↔
      ∀ entry ∈ subset, Text.trim entry ∈ spec.tasks.map (·.id) := by
  constructor
  · rintro ⟨a, assembled⟩ entry hentry
    obtain ⟨tasks, _, _, _, made⟩ := assembled_of_assemble assembled
    have found := (selectTasks_eq_ok_iff nonempty).mp made.selects
    obtain ⟨task, _, found⟩ := exists_mem_of_forall₂ found.flip entry hentry
    exact exists_task?_iff.mp ⟨task, found⟩
  · intro declared
    obtain ⟨tasks, found⟩ := exists_forall₂_iff.mpr fun entry hentry =>
      exists_task?_iff.mpr (declared entry hentry)
    have selects := (selectTasks_eq_ok_iff nonempty).mpr found
    have known := mem_of_selectTasks selects
    exact exists_assemble selects fun task htask => h.compiles task (known task htask)

/-- An id that no task has is refused whatever the files are. -/
theorem assemble_eq_error {id : String}
    (first : (subset.map Text.trim).find? (· ∉ spec.tasks.map (·.id)) = some id) :
    assemble files spec .standalone subset = .error (.unknownTask id) := by
  simp only [assemble, selectTasks_eq_error first, bind, Except.bind]

end Assembly

/-- The specification is the one in a file. -/
theorem loadSpec_of_load {files : Files.Tree} {path : String} {loaded : Workflow.Loaded}
    (h : Workflow.load files path = .ok loaded) : loadSpec files path = .ok loaded.spec := by
  rw [loadSpec, h]

section Drivers

variable {files : Files.Tree} {path : String} {loaded : Workflow.Loaded} {full : Artifact}

/-- The script asked for is the one that is assembled, also if nothing is asked for: then it is
the script of all tasks. -/
theorem build_standalone (h : Workflow.load files path = .ok loaded)
    (whole : assemble files loaded.spec .standalone [] = .ok full) (subset : List String) :
    build files path .standalone subset =
      (fun a => ⟨loaded.spec, full, a⟩) <$> assemble files loaded.spec .standalone subset := by
  by_cases nothing : subset = []
  · subst nothing
    simp only [build, loadSpec_of_load h, buildLoaded, whole, bind, Except.bind]
    rfl
  · simp only [build, loadSpec_of_load h, buildLoaded, whole, nothing, and_false, if_false, bind,
      Except.bind]
    cases assemble files loaded.spec .standalone subset with
    | error e => rfl
    | ok a => rfl

theorem runLocal_eq (launch : Run.Launcher) (settings : Settings.Runner)
    (h : Workflow.load files path = .ok loaded) (subset : List String) :
    Run.runLocal launch files path subset settings =
      Run.runArtifact launch files settings <$> assemble files loaded.spec .standalone subset := by
  simp only [Run.runLocal, loadSpec_of_load h]
  rfl

/-- A run-list that asks for something, where the script of all tasks can be made, makes a script
exactly if each entry is, white space aside, the id of a task; otherwise the first id that no task
has is refused, whatever the files are. The script has the code of the tasks asked for in the order
of the entries, the same code that the script of all tasks has, and calls them in this order. It is
this script that is built and that an interpreter is started with. -/
theorem runList_as_requested {sources : Files.Tree}
    (accepted : Workflow.load sources path = .ok loaded)
    (whole : assemble files loaded.spec .standalone [] = .ok full)
    {subset : List String} (nonempty : subset ≠ []) :
    ((∃ a, assemble files loaded.spec .standalone subset = .ok a) ↔
      ∀ entry ∈ subset, Text.trim entry ∈ loaded.spec.tasks.map (·.id)) ∧
    (∀ id, (subset.map Text.trim).find? (· ∉ loaded.spec.tasks.map (·.id)) = some id →
      ∀ others, assemble others loaded.spec .standalone subset = .error (.unknownTask id)) ∧
    (∃ fragment, Fragments files loaded.spec full fragment ∧
      ∀ a, assemble files loaded.spec .standalone subset = .ok a →
        ∃ tasks, Listed loaded.spec fragment subset a tasks) ∧
    ∀ file, Workflow.load files file = .ok loaded → ∀ list,
      (build files file .standalone list =
        (fun a => ⟨loaded.spec, full, a⟩) <$> assemble files loaded.spec .standalone list) ∧
      ∀ launch settings, Run.runLocal launch files file list settings =
          Run.runArtifact launch files settings <$> assemble files loaded.spec .standalone list ∧
        ∀ a, assemble files loaded.spec .standalone list = .ok a →
          Run.Runs launch files settings a (Run.runArtifact launch files settings a) := by
  have settled := Workflow.settled_of_load accepted
  obtain ⟨fragment, known⟩ := exists_fragments_of_full whole
  refine ⟨exists_assemble_iff known nonempty, fun id first others => assemble_eq_error first,
    ⟨fragment, known, fun a h => listed_of_assemble known settled nonempty h⟩, ?_⟩
  intro file h list
  refine ⟨build_standalone h whole list, fun launch settings => ?_⟩
  exact ⟨runLocal_eq launch settings h list, fun a _ => Run.runs_runArtifact launch files settings a⟩

/-- A query is asked for twice and a machine launch in between. -/
theorem runList_as_requested_twice :
    let files := Workflow.besideLaunch
    ∃ loaded full a fragment tasks, Workflow.load files "/w" = .ok loaded ∧
      assemble files loaded.spec .standalone [] = .ok full ∧
      assemble files loaded.spec .standalone [" ab", "vm", "ab "] = .ok a ∧
      Fragments files loaded.spec full fragment ∧
      Listed loaded.spec fragment [" ab", "vm", "ab "] a tasks ∧
      tasks.map (·.id) = ["ab", "vm", "ab"] ∧
      build files "/w" .standalone [" ab", "vm", "ab "] = .ok ⟨loaded.spec, full, a⟩ := by
  intro files
  have ran : (do
      let loaded ← (Workflow.loadDocument files "/w" "/" Workflow.launchThenQuery).toOption
      let _ ← (assemble files loaded.spec .standalone []).toOption
      some (loaded.spec.tasks.map (·.id))) = some ["ab", "vm"] := by decide +kernel
  simp only [Option.bind_eq_bind, Option.bind_eq_some_iff, toOption_eq_some_iff,
    Option.some.injEq] at ran
  obtain ⟨loaded, accepted, full, whole, ids⟩ := ran
  rw [← Workflow.load_besideLaunch] at accepted
  obtain ⟨succeeds, _, ⟨fragment, known, listed⟩, drivers⟩ :=
    runList_as_requested accepted whole (List.cons_ne_nil " ab" ["vm", "ab "])
  have declared : ∀ entry ∈ [" ab", "vm", "ab "],
      Text.trim entry ∈ loaded.spec.tasks.map (·.id) := by
    rw [ids]
    decide
  obtain ⟨a, assembled⟩ := succeeds.mpr declared
  obtain ⟨tasks, script⟩ := listed a assembled
  have named : tasks.map (·.id) = [" ab", "vm", "ab "].map Text.trim := by
    rw [← List.forall₂_eq_eq_eq, List.forall₂_map_left_iff, List.forall₂_map_right_iff]
    exact script.requested.flip.imp fun _ _ found => found.2
  refine ⟨loaded, full, a, fragment, tasks, accepted, whole, assembled, known, script, named, ?_⟩
  rw [(drivers "/w" accepted _).1, assembled]
  rfl

end Drivers

end WorkflowCompiler.Script
