import WorkflowCompiler.Proofs.Workflow.Checks

/-!
What the checks of ids report. Each of the three looks for ids of one kind, fails exactly if there
are any and then names all of them and no others: repeated ids in the order in which they come
again, malformed ones as they are declared, undeclared ones in the order in which dependencies
mention them. Main result: this holds of all tasks and dependencies, and where dependencies are
expressions, the undeclared ids are those among their tokens that no task has.
-/
namespace WorkflowCompiler.Workflow

open Dependency (Token)

/-- The check fails exactly if an id is at fault, and then objects to the ids that are. -/
structure Reports (check : Except Rejection Unit) (objection : List String → Rejection)
    (faulty : String → Prop) (found : List String) : Prop where
  fails : (∃ rejection, check = .error rejection) ↔ ∃ id, faulty id
  objects : ∀ rejection, check = .error rejection → rejection = objection found
  exactly : ∀ id, id ∈ found ↔ faulty id

/-- The id is among the tokens of the expression. -/
def Contains (expression id : String) : Prop :=
  ∃ ts, Dependency.tokens expression.toList = .ok ts ∧ Token.id id ∈ ts

variable {objection : List String → Rejection} {faulty : String → Prop} {found : List String}

theorem reports_objectTo (exactly : ∀ id, id ∈ found ↔ faulty id) :
    Reports (objectTo objection found) objection faulty found where
  fails := by
    have any : found ≠ [] ↔ ∃ id, id ∈ found :=
      ⟨List.exists_mem_of_ne_nil found, fun ⟨_, hid⟩ => List.ne_nil_of_mem hid⟩
    simp only [objectTo_eq_error_iff, exists_and_left, exists_eq, and_true, any, exactly]
  objects := fun _ rejected => (objectTo_eq_error_iff.mp rejected).2
  exactly := exactly

/-- An expression that stands for edges mentions the ids among its tokens. -/
theorem mem_mentioned_iff_contains {expression id : String} {es : List Dependency.Edge}
    (accepted : Dependency.edges expression = .ok es) :
    id ∈ Dependency.mentioned expression ↔ Contains expression id := by
  obtain ⟨ts, hts, _⟩ := Dependency.edges_eq_ok_iff.mp accepted
  have own : Dependency.tokens expression.toList = .ok ts := Dependency.tokens_eq_ok_iff.mpr hts
  rw [Dependency.mentioned_eq_names hts, Dependency.mem_names]
  constructor
  · exact fun hid => ⟨ts, own, hid⟩
  · rintro ⟨us, hus, hid⟩
    rwa [Except.ok.inj (own.symm.trans hus)]

/-- The check for repetitions names the ids that come twice, as they come the second time; the
check for the form names the ids without it, as often and in the order as they are declared; the
check for declarations names what is mentioned and no id of a task, as it is mentioned first. -/
theorem checks_exact (tasks : List Task) (dependencies : List String) :
    let ids := tasks.map (·.id)
    let mentioned := dependencies.flatMap Dependency.mentioned
    (∃ found, Reports (checkDistinctIds tasks) .duplicateIds (fun id => 2 ≤ ids.count id) found ∧
      found.Nodup ∧ InOrder 1 ids found) ∧
    (∃ found, Reports (checkTaskIds tasks) .malformedIds (fun id => id ∈ ids ∧ ¬ TaskId id) found ∧
      found.Sublist ids ∧ ∀ id, ¬ TaskId id → found.count id = ids.count id) ∧
    (∃ found, Reports (checkDeclared dependencies tasks) .undeclaredTasks
        (fun id => id ∈ mentioned ∧ id ∉ ids) found ∧
      found.Nodup ∧ InOrder 0 mentioned found ∧
      ((∀ expression ∈ dependencies, ∃ es, Dependency.edges expression = .ok es) → ∀ id,
        id ∈ found ↔ (∃ expression ∈ dependencies, Contains expression id) ∧ id ∉ ids)) := by
  intro ids mentioned
  refine ⟨⟨_, reports_objectTo fun id => ?_, ?_, ?_⟩, ⟨_, reports_objectTo fun id => ?_, ?_, ?_⟩,
    ⟨_, reports_objectTo fun id => ?_, ?_, ?_, ?_⟩⟩
  · exact mem_repeatedIds
  · exact (lists_repeatedIds ids).nodup
  · exact (lists_repeatedIds ids).ordered
  · simp [ids, List.mem_filter, Bool.eq_false_iff, isTaskId_iff]
  · exact List.filter_sublist
  · intro id malformed
    exact List.count_filter (by simpa [Bool.eq_false_iff, isTaskId_iff] using malformed)
  · simp [mem_firstOccurrences, mentioned, ids]
  · exact (lists_firstOccurrences _).nodup
  · rw [firstOccurrences_filter]
    exact (lists_firstOccurrences mentioned).ordered.filter _
  · intro accepted id
    simp only [mem_firstOccurrences, List.mem_filter, decide_eq_true_eq, List.mem_flatMap]
    refine and_congr_left fun _ => exists_congr fun expression => and_congr_right fun known => ?_
    obtain ⟨es, hes⟩ := accepted expression known
    exact mem_mentioned_iff_contains hes

/-- Ids that no task has, in two expressions that stand for edges. -/
theorem checks_exact_two_unknown :
    let tasks := ["a1", "b1"].map fun id => Task.ofMembers [("id", .text id)]
    let dependencies := ["a1 >> [zz, b1]", "yy << zz"]
    checkDeclared dependencies tasks = .error (.undeclaredTasks ["zz", "yy"]) ∧
      ∀ id, id ∈ ["zz", "yy"] ↔
        (∃ expression ∈ dependencies, Contains expression id) ∧ id ∉ tasks.map (·.id) := by
  intro tasks dependencies
  have missing : firstOccurrences ((dependencies.flatMap Dependency.mentioned).filter
      (· ∉ tasks.map (·.id))) = ["zz", "yy"] := by decide +kernel
  have refused : checkDeclared dependencies tasks = .error (.undeclaredTasks ["zz", "yy"]) :=
    congrArg (objectTo .undeclaredTasks) missing
  have accepted : ∀ expression ∈ dependencies,
      ∃ es, Dependency.edges expression = .ok es := by
    have each : ∀ expression ∈ dependencies, (Dependency.edges expression).toOption.isSome := by
      decide +kernel
    intro expression known
    obtain ⟨es, hes⟩ := Option.isSome_iff_exists.mp (each expression known)
    exact ⟨es, toOption_eq_some_iff.mp hes⟩
  obtain ⟨_, _, found, reports, _, _, exactly⟩ := checks_exact tasks dependencies
  have same := reports.objects _ refused
  cases same
  exact ⟨refused, exactly accepted⟩

end WorkflowCompiler.Workflow
