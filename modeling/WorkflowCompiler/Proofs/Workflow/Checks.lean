import WorkflowCompiler.Proofs.Dependency.Mentioned
import WorkflowCompiler.Proofs.Dependency.Cycle
import WorkflowCompiler.Proofs.Workflow.Occurrences

/-!
What each check asks of a specification. The checks run one after another and together they give
a graph exactly for the sound specifications; a check that collects ids collects none exactly
when it is satisfied.
-/
namespace WorkflowCompiler.Workflow

open Dependency (Token Lexes Written Denotes DependsOn)

/-- A letter, then letters, digits and underscores, then a letter or digit, all of them ASCII. -/
def TaskId (id : String) : Prop :=
  ∃ first middle last, id.toList = first :: (middle ++ [last]) ∧
    Text.isAsciiLetter first = true ∧
    (∀ c ∈ middle, Text.isAsciiLetter c = true ∨ Text.isAsciiDigit c = true ∨ c = '_') ∧
    (Text.isAsciiLetter last = true ∨ Text.isAsciiDigit last = true)

/-- An expression of the grammar that names tasks with certain ids only. -/
def Names (expression : String) (declared : List String) : Prop :=
  ∃ ts, Lexes expression.toList ts ∧ (ts = [] ∨ ∃ c, Written c ts) ∧
    ∀ id, Token.id id ∈ ts → id ∈ declared

/-- Tasks and dependencies that make a graph without cycles. -/
structure Sound (ids dependencies : List String) : Prop where
  distinct : ids.Nodup
  wellNamed : ∀ id ∈ ids, TaskId id
  declared : ∀ expression ∈ dependencies, Names expression ids
  acyclic : ∀ a, ¬ Relation.TransGen (DependsOn dependencies) a a

theorem underscore_not_letter_or_digit :
    ¬ (Text.isAsciiLetter '_' = true ∨ Text.isAsciiDigit '_' = true) := by decide

theorem isTaskId_of_toList {id : String} {first last : Char} {middle : List Char}
    (h : id.toList = first :: (middle ++ [last])) : isTaskId id = true ↔
      Text.isAsciiLetter first = true ∧
      (∀ c ∈ middle, Text.isAsciiLetter c = true ∨ Text.isAsciiDigit c = true ∨ c = '_') ∧
      (Text.isAsciiLetter last = true ∨ Text.isAsciiDigit last = true) := by
  obtain ⟨second, rest, split⟩ : ∃ second rest, middle ++ [last] = second :: rest :=
    List.exists_cons_of_ne_nil (by simp)
  have getLast : (first :: second :: rest).getLast? = some last := by
    rw [← split, ← List.cons_append, List.getLast?_concat]
  unfold isTaskId
  rw [h, split, getLast]
  simp only [← split, Bool.and_eq_true, List.all_eq_true, List.mem_cons, List.mem_append,
    List.not_mem_nil, or_false, Bool.or_eq_true, beq_iff_eq, bne_iff_ne]
  constructor
  · rintro ⟨⟨letter, all⟩, underscore⟩
    refine ⟨letter, fun c hc => or_assoc.mp (all c (Or.inr (Or.inl hc))), ?_⟩
    exact (all last (Or.inr (Or.inr rfl))).resolve_right underscore
  · rintro ⟨letter, all, ending⟩
    refine ⟨⟨letter, ?_⟩, ?_⟩
    · rintro c (rfl | hc | rfl)
      · exact Or.inl (Or.inl letter)
      · exact or_assoc.mpr (all c hc)
      · exact Or.inl ending
    · rintro rfl
      exact underscore_not_letter_or_digit ending

/-- An id that passes has a first and a last character. -/
theorem toList_of_isTaskId {id : String} (h : isTaskId id = true) :
    ∃ first middle last, id.toList = first :: (middle ++ [last]) := by
  unfold isTaskId at h
  split at h
  · next first second rest last hid _ =>
    obtain ⟨middle, last', hrest⟩ := List.eq_nil_or_concat (second :: rest) |>.resolve_left
      (List.cons_ne_nil second rest)
    exact ⟨first, middle, last', by rw [hid, hrest, List.concat_eq_append]⟩
  · cases h

theorem isTaskId_iff {id : String} : isTaskId id = true ↔ TaskId id := by
  constructor
  · intro h
    obtain ⟨first, middle, last, hid⟩ := toList_of_isTaskId h
    exact ⟨first, middle, last, hid, (isTaskId_of_toList hid).mp h⟩
  · rintro ⟨first, middle, last, hid, h⟩
    exact (isTaskId_of_toList hid).mpr h

/-- A check passes when it has nothing to object to. -/
theorem objectTo_eq_ok_iff {objection : List String → Rejection} {ids : List String} :
    objectTo objection ids = .ok () ↔ ids = [] := by
  cases ids with
  | nil => exact iff_of_true rfl rfl
  | cons id ids => exact iff_of_false (fun h => by cases h) (List.cons_ne_nil id ids)

theorem objectTo_eq_error_iff {objection : List String → Rejection} {ids : List String}
    {rejection : Rejection} :
    objectTo objection ids = .error rejection ↔ ids ≠ [] ∧ rejection = objection ids := by
  cases ids with
  | nil => exact iff_of_false (fun h => by cases h) fun h => h.1 rfl
  | cons id ids => simp [objectTo, eq_comm]

theorem checkDistinctIds_eq_ok_iff {tasks : List Task} :
    checkDistinctIds tasks = .ok () ↔ (tasks.map (·.id)).Nodup := by
  rw [checkDistinctIds, objectTo_eq_ok_iff, repeatedIds_eq_nil_iff]

theorem checkDeclared_eq_ok_iff {dependencies : List String} {tasks : List Task} :
    checkDeclared dependencies tasks = .ok () ↔
      ∀ expression ∈ dependencies, ∀ id ∈ Dependency.mentioned expression,
        id ∈ tasks.map (·.id) := by
  rw [checkDeclared, objectTo_eq_ok_iff, firstOccurrences_eq_nil_iff]
  simp only [List.filter_eq_nil_iff, List.mem_flatMap, decide_eq_true_eq, not_not,
    forall_exists_index, and_imp]
  exact ⟨fun h e he id hid => h id e he hid, fun h id e he hid => h e he id hid⟩

theorem checkTaskIds_eq_ok_iff {tasks : List Task} :
    checkTaskIds tasks = .ok () ↔ ∀ id ∈ tasks.map (·.id), TaskId id := by
  rw [checkTaskIds, objectTo_eq_ok_iff]
  simp only [List.filter_eq_nil_iff, Bool.not_eq_true', Bool.not_eq_false, isTaskId_iff]

/-- Where the words of an expression can be told, those that it mentions are its ids. -/
theorem names_iff {expression : String} {declared : List String} :
    Names expression declared ↔ (∃ es, Denotes expression es) ∧
      ∀ id ∈ Dependency.mentioned expression, id ∈ declared := by
  constructor
  · rintro ⟨ts, hts, grammatical, all⟩
    constructor
    · rcases grammatical with empty | ⟨c, hc⟩
      · exact ⟨[], ts, hts, Or.inl ⟨empty, rfl⟩⟩
      · exact ⟨c.products, ts, hts, Or.inr ⟨c, hc, rfl⟩⟩
    · intro id hid
      rw [Dependency.mentioned_eq_names hts, Dependency.mem_names] at hid
      exact all id hid
  · rintro ⟨⟨es, ts, hts, meaning⟩, all⟩
    refine ⟨ts, hts, ?_, fun id hid => all id ?_⟩
    · exact meaning.imp (fun h => h.1) fun ⟨c, hc, _⟩ => ⟨c, hc⟩
    · rwa [Dependency.mentioned_eq_names hts, Dependency.mem_names]

/-- The graph of the dependencies passes if it is there and no walk along it closes. -/
theorem graph_eq_ok_iff {dependencies : List String} {g : Dependency.Graph} :
    (Dependency.Graph.ofExpressions dependencies = .ok g ∧ g.validate = .ok ()) ↔
      Dependency.Graph.ofExpressions dependencies = .ok g ∧
        ∀ a, ¬ Relation.TransGen (DependsOn dependencies) a a := by
  refine and_congr_right fun built => ?_
  obtain ⟨wellFormed, hedges⟩ := Dependency.Graph.ofExpressions_spec built
  have same : g.Linked = DependsOn dependencies := funext₂ fun a b => propext (hedges a b)
  rw [Dependency.Graph.validate_eq_ok_iff, Dependency.Graph.cycle?_eq_none_iff wellFormed, same]

/-- A specification passes exactly if its start date can be read and its tasks and dependencies
are sound; the result is the graph of the dependencies. -/
theorem validate_eq_ok_iff {spec : Spec} {g : Dependency.Graph} :
    validate spec = .ok g ↔ (∃ start, StartDate.normalize spec.startDate = .ok start) ∧
      Sound (spec.tasks.map (·.id)) spec.dependencies ∧
      Dependency.Graph.ofExpressions spec.dependencies = .ok g := by
  have steps : validate spec = .ok g ↔ (∃ start, StartDate.normalize spec.startDate = .ok start) ∧
      checkDistinctIds spec.tasks = .ok () ∧
      checkDeclared spec.dependencies spec.tasks = .ok () ∧
      checkTaskIds spec.tasks = .ok () ∧
      Dependency.Graph.ofExpressions spec.dependencies = .ok g ∧ g.validate = .ok () := by
    simp only [validate, bind_eq_ok_iff, Except.ok.injEq]
    constructor
    · rintro ⟨start, hstart, _, distinct, _, declared, _, wellNamed, _, built, _, valid, rfl⟩
      exact ⟨⟨start, hstart⟩, distinct, declared, wellNamed, built, valid⟩
    · rintro ⟨⟨start, hstart⟩, distinct, declared, wellNamed, built, valid⟩
      exact ⟨start, hstart, (), distinct, (), declared, (), wellNamed, g, built, (), valid, rfl⟩
  rw [steps, checkDistinctIds_eq_ok_iff, checkDeclared_eq_ok_iff, checkTaskIds_eq_ok_iff,
    graph_eq_ok_iff]
  refine and_congr_right fun _ => ?_
  constructor
  · rintro ⟨distinct, declared, wellNamed, built, acyclic⟩
    have meaningful : ∀ expression ∈ spec.dependencies, ∃ es, Denotes expression es :=
      Dependency.Graph.exists_ofExpressions_iff.mp ⟨g, built⟩
    exact ⟨⟨distinct, wellNamed, fun expression h =>
      names_iff.mpr ⟨meaningful expression h, declared expression h⟩, acyclic⟩, built⟩
  · rintro ⟨sound, built⟩
    exact ⟨sound.distinct, fun expression h => (names_iff.mp (sound.declared expression h)).2,
      sound.wellNamed, built, sound.acyclic⟩

/-- Sound tasks and dependencies have a graph. -/
theorem Sound.exists_graph {ids dependencies : List String} (h : Sound ids dependencies) :
    ∃ g, Dependency.Graph.ofExpressions dependencies = .ok g :=
  Dependency.Graph.exists_ofExpressions_iff.mpr fun expression he =>
    (names_iff.mp (h.declared expression he)).1

end WorkflowCompiler.Workflow
