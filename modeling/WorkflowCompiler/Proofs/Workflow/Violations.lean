import Mathlib.Order.WellFounded
import WorkflowCompiler.CommandLine.Program
import WorkflowCompiler.Proofs.Workflow.Written

/-!
What a rejection tells of the task ids. An id may occur twice, be used without a declaration or be
malformed. There is a check for each of these flaws, and a check names every id that it objects
to, but the first check that objects keeps the others from being made. Main result: a rejection
tells of every flaw exactly if all flaws are of one sort, and it tells something of every id with
a flaw exactly if every such id has the flaw that is looked for first.
-/
namespace WorkflowCompiler.Workflow

open Json (Value)

inductive Flaw
  | repeated
  | undeclared
  | malformed
  deriving DecidableEq, Repr

namespace Flaw

/-- Which ids a flaw affects, where tasks have these ids and dependencies are these expressions. -/
def Affects (ids dependencies : List String) (id : String) : Flaw → Prop
  | repeated => 2 ≤ ids.count id
  | undeclared => id ∉ ids ∧ ∃ expression ∈ dependencies, id ∈ Dependency.mentioned expression
  | malformed => id ∈ ids ∧ ¬ TaskId id

def line (id : String) : Flaw → String
  | repeated => Rejection.duplicateLine id
  | undeclared => Rejection.undeclaredLine id
  | malformed => Rejection.malformedLine id

/-- The place of a flaw in the order of the checks. -/
def rank : Flaw → Nat
  | repeated => 0
  | undeclared => 1
  | malformed => 2

def rejection : Flaw → List String → Rejection
  | repeated => .duplicateIds
  | undeclared => .undeclaredTasks
  | malformed => .malformedIds

def found (ids dependencies : List String) : Flaw → List String
  | repeated => repeatedIds ids
  | undeclared =>
    firstOccurrences ((dependencies.flatMap Dependency.mentioned).filter (· ∉ ids))
  | malformed => ids.filter (!isTaskId ·)

end Flaw

/-- A line that tells some flaw of an id. -/
def TellsOf (id line : String) : Prop := ∃ flaw : Flaw, line = flaw.line id

namespace Flaw

/-- A check finds the ids that its flaw affects. -/
theorem mem_found {ids dependencies : List String} {id : String} {flaw : Flaw} :
    id ∈ flaw.found ids dependencies ↔ flaw.Affects ids dependencies id := by
  cases flaw with
  | repeated => exact mem_repeatedIds
  | undeclared =>
    simp only [found, Affects, mem_firstOccurrences, List.mem_filter, List.mem_flatMap,
      decide_eq_true_eq]
    exact and_comm
  | malformed =>
    simp only [found, Affects, List.mem_filter, Bool.not_eq_true', Bool.eq_false_iff, ne_eq,
      isTaskId_iff]

theorem violations_rejection (flaw : Flaw) (ids : List String) :
    (flaw.rejection ids).violations = ids.map flaw.line := by
  cases flaw <;> rfl

def opening : Flaw → String
  | repeated => "the task ID \""
  | undeclared => "the task with ID \""
  | malformed => "the task ID \""

def closing : Flaw → String
  | repeated => "\" is declared more than once"
  | undeclared => "\" is present in \"task_dependencies\" but not in \"workflow\""
  | malformed => "\" is malformed: first character must be a letter, " ++
      "letters, numbers and underscores may follow, the last character cannot be an underscore"

theorem line_eq (flaw : Flaw) (id : String) : flaw.line id = flaw.opening ++ id ++ flaw.closing := by
  cases flaw with
  | repeated => rfl
  | undeclared => rfl
  | malformed => exact String.append_assoc

/-- The last letter but one tells the flaw. -/
def mark : Flaw → Char
  | repeated => 'c'
  | undeclared => 'w'
  | malformed => 'r'

theorem mark_line (flaw : Flaw) (id : String) :
    (flaw.line id).toList.reverse[1]? = some flaw.mark := by
  have ends : flaw.closing.toList.reverse[1]? = some flaw.mark := by
    cases flaw <;> decide +kernel
  obtain ⟨inside, _⟩ := List.getElem?_eq_some_iff.mp ends
  rw [line_eq, String.toList_append, List.reverse_append, List.getElem?_append_left inside, ends]

/-- A line tells one flaw of one id. -/
theorem line_inj {flaw other : Flaw} {id id' : String} (same : flaw.line id = other.line id') :
    flaw = other ∧ id = id' := by
  have marks : some flaw.mark = some other.mark := by rw [← mark_line, same, mark_line]
  have sort : flaw = other := by
    cases flaw <;> cases other <;> first | rfl | exact absurd marks (by decide)
  subst sort
  rw [line_eq, line_eq, String.append_left_inj, String.append_right_inj] at same
  exact ⟨rfl, same⟩

end Flaw

/-- The checks look for the flaws in their order, and the first that finds ids rejects. -/
theorem validate_eq_error {spec : Spec} {start : String}
    (started : StartDate.normalize spec.startDate = .ok start) {flaw : Flaw}
    (found : flaw.found (spec.tasks.map (·.id)) spec.dependencies ≠ [])
    (earlier : ∀ other : Flaw, other.rank < flaw.rank →
      other.found (spec.tasks.map (·.id)) spec.dependencies = []) :
    validate spec =
      .error (flaw.rejection (flaw.found (spec.tasks.map (·.id)) spec.dependencies)) := by
  have distinct : flaw ≠ .repeated → checkDistinctIds spec.tasks = .ok () := fun later =>
    objectTo_eq_ok_iff.mpr (earlier .repeated (by cases flaw <;> simp_all [Flaw.rank]))
  refine bind_eq_error_iff.mpr (.inr ⟨start, started, bind_eq_error_iff.mpr ?_⟩)
  cases flaw with
  | repeated => exact .inl (objectTo_eq_error_iff.mpr ⟨found, rfl⟩)
  | undeclared =>
    refine .inr ⟨(), distinct (by decide), bind_eq_error_iff.mpr (.inl ?_)⟩
    exact objectTo_eq_error_iff.mpr ⟨found, rfl⟩
  | malformed =>
    have declared : checkDeclared spec.dependencies spec.tasks = .ok () :=
      objectTo_eq_ok_iff.mpr (earlier .undeclared (by decide))
    refine .inr ⟨(), distinct (by decide), bind_eq_error_iff.mpr (.inr ⟨(), declared, ?_⟩)⟩
    exact bind_eq_error_iff.mpr (.inl (objectTo_eq_error_iff.mpr ⟨found, rfl⟩))

/-- What rejects the specification that a document describes rejects its file. -/
theorem load_eq_error_of_validate {files : Files.Tree} {path text start : String}
    {document : Value} {decoded : Spec} {rejection : Rejection}
    (read : files.readText path = .ok text) (parsed : Value.parse text = .ok document)
    (described : Describes document decoded)
    (started : StartDate.normalize decoded.startDate = .ok start)
    (rejected : validate (decoded.settle (Files.directoryOf path) start) = .error rejection) :
    load files path = .error rejection := by
  have settled : describe path (Files.directoryOf path) document =
      .ok (decoded.settle (Files.directoryOf path) start) :=
    describe_eq_ok_iff.mpr ⟨decoded, start, described, started, rfl⟩
  simp only [load, loadText, loadDocument, read, parsed, settled, rejected, bind, Except.bind,
    Except.mapError]

/-- The id has the flaw in a specification as it is written; white space around the ids of tasks
does not count. -/
def Flaw.In (decoded : Spec) (id : String) (flaw : Flaw) : Prop :=
  flaw.Affects (decoded.tasks.map fun task => Text.trim task.id) decoded.dependencies id

/-- Among the flaws that there are, one is looked for first; the rejection tells of it alone. -/
theorem exists_first_flaw {files : Files.Tree} {path text start : String} {document : Value}
    {decoded : Spec} (read : files.readText path = .ok text)
    (parsed : Value.parse text = .ok document) (described : Describes document decoded)
    (started : StartDate.normalize decoded.startDate = .ok start)
    (flawed : ∃ (flaw : Flaw) (id : String), flaw.In decoded id) :
    ∃ rejection, ∃ first : Flaw, load files path = .error rejection ∧
      (∃ id, first.In decoded id) ∧
      (∀ (flaw : Flaw) (id : String), flaw.In decoded id → first.rank ≤ flaw.rank) ∧
      ∀ line, line ∈ rejection.violations ↔ ∃ id, first.In decoded id ∧ line = first.line id := by
  obtain ⟨first, ⟨some, here⟩, least⟩ :=
    (measure Flaw.rank).wf.has_min {flaw | ∃ id, flaw.In decoded id} flawed
  have least : ∀ (flaw : Flaw) (id : String), flaw.In decoded id → first.rank ≤ flaw.rank :=
    fun flaw id other => Nat.le_of_not_lt (least flaw ⟨id, other⟩)
  refine ⟨first.rejection (first.found (decoded.tasks.map fun task => Text.trim task.id)
    decoded.dependencies), first, ?_, ⟨some, here⟩, least, ?_⟩
  · refine load_eq_error_of_validate read parsed described started ?_
    have ids : (decoded.settle (Files.directoryOf path) start).tasks.map (·.id) =
        decoded.tasks.map fun task => Text.trim task.id := ids_settle
    rw [← ids]
    refine validate_eq_error (StartDate.normalize_normalize started) ?_ ?_
    · rw [ids]
      exact List.ne_nil_of_mem (Flaw.mem_found.mpr here)
    · intro other sooner
      rw [ids]
      refine List.eq_nil_iff_forall_not_mem.mpr fun id found => ?_
      exact Nat.not_lt.mpr (least other id (Flaw.mem_found.mp found)) sooner
  · intro line
    rw [Flaw.violations_rejection, List.mem_map]
    simp only [Flaw.mem_found, Flaw.In, eq_comm]

/-- A specification with flaws in the ids of its tasks is rejected, and the rejection tells of the
flaws of the first sort, one line for each id. So it tells of every flaw exactly if there is only
one sort of flaw, and of every id with a flaw exactly if all have the flaw of this sort. -/
theorem every_flaw_told_iff {files : Files.Tree} {path text start : String} {document : Value}
    {decoded : Spec} (read : files.readText path = .ok text)
    (parsed : Value.parse text = .ok document) (described : Describes document decoded)
    (started : StartDate.normalize decoded.startDate = .ok start)
    (flawed : ∃ (flaw : Flaw) (id : String), flaw.In decoded id) :
    ∃ rejection, ∃ first : Flaw, load files path = .error rejection ∧
      (∀ (σ : Type) (world : CommandLine.World σ), world.files = files →
        (world.validate path).result = .error (.build (.rejected rejection))) ∧
      (∃ id, first.In decoded id) ∧
      (∀ (flaw : Flaw) (id : String), flaw.In decoded id → first.rank ≤ flaw.rank) ∧
      (∀ line, line ∈ rejection.violations ↔ ∃ id, first.In decoded id ∧ line = first.line id) ∧
      ((∀ (flaw : Flaw) (id : String), flaw.In decoded id → flaw.line id ∈ rejection.violations) ↔
        ∀ (flaw : Flaw) (id : String), flaw.In decoded id → flaw = first) ∧
      ((∀ (flaw : Flaw) (id : String), flaw.In decoded id →
          ∃ line ∈ rejection.violations, TellsOf id line) ↔
        ∀ (flaw : Flaw) (id : String), flaw.In decoded id → first.In decoded id) := by
  obtain ⟨rejection, first, rejected, some, least, told⟩ :=
    exists_first_flaw read parsed described started flawed
  refine ⟨rejection, first, rejected, ?_, some, least, told, ?_, ?_⟩
  · rintro σ world rfl
    simp only [CommandLine.World.validate, rejected, CommandLine.World.report]
  · refine forall₃_congr fun flaw id here => ?_
    rw [told]
    constructor
    · rintro ⟨other, _, same⟩
      exact (Flaw.line_inj same).1
    · rintro rfl
      exact ⟨id, here, rfl⟩
  · refine forall₃_congr fun flaw id _ => ?_
    constructor
    · rintro ⟨line, inside, other, rfl⟩
      obtain ⟨found, here, same⟩ := (told _).mp inside
      rwa [(Flaw.line_inj same).2]
    · intro here
      exact ⟨first.line id, (told _).mpr ⟨id, here, rfl⟩, first, rfl⟩

theorem readText_besideQueries (ids dependencies : List String) :
    (besideQueries ids dependencies).readText "/w" = .ok (queries ids dependencies).toText :=
  readText_eq_ok_iff.mpr rfl

/-- A workflow of queries whose ids and dependencies are read as they stand. -/
theorem exists_describes_queries (ids dependencies : List String)
    (complete : missingField? (queries ids dependencies).members = none)
    (reads : (Spec.decode (queries ids dependencies)).toOption.map (fun decoded =>
        (decoded.tasks.map (fun task => Text.trim task.id), decoded.dependencies,
          decoded.startDate)) = some (ids, dependencies, "2019,7,1")) :
    ∃ decoded, Describes (queries ids dependencies) decoded ∧
      StartDate.normalize decoded.startDate = .ok "2019, 7, 1" ∧
      ∀ (flaw : Flaw) (id : String), flaw.In decoded id ↔ id ∈ flaw.found ids dependencies := by
  obtain ⟨decoded, read, same⟩ := Option.map_eq_some_iff.mp reads
  simp only [Prod.mk.injEq] at same
  obtain ⟨sameIds, sameDependencies, started⟩ := same
  refine ⟨decoded, ?_, ?_, fun flaw id => ?_⟩
  · exact ⟨(queries ids dependencies).members, rfl, missingField?_eq_none_iff.mp complete,
      toOption_eq_some_iff.mp read⟩
  · rw [started]
    exact toOption_eq_some_iff.mp (by decide +kernel)
  · rw [Flaw.mem_found, Flaw.In, sameIds, sameDependencies]

/-- Two undeclared ids and no other flaw: the rejection tells of both. -/
theorem every_flaw_told_iff_undeclared :
    let document := queries ["ab", "cd"] ["ab >> yy", "zz >> cd"]
    ∃ decoded rejection, Describes document decoded ∧
      Flaw.undeclared.In decoded "yy" ∧ Flaw.undeclared.In decoded "zz" ∧
      load (besideQueries ["ab", "cd"] ["ab >> yy", "zz >> cd"]) "/w" = .error rejection ∧
      Rejection.undeclaredLine "yy" ∈ rejection.violations ∧
      Rejection.undeclaredLine "zz" ∈ rejection.violations := by
  obtain ⟨decoded, described, started, flawed⟩ := exists_describes_queries
    ["ab", "cd"] ["ab >> yy", "zz >> cd"] (by decide +kernel) (by decide +kernel)
  have first : Flaw.undeclared.In decoded "yy" := (flawed _ _).mpr (by decide +kernel)
  have second : Flaw.undeclared.In decoded "zz" := (flawed _ _).mpr (by decide +kernel)
  obtain ⟨rejection, sort, rejected, _, ⟨id, some⟩, _, _, all, _⟩ :=
    every_flaw_told_iff (readText_besideQueries _ _) (Json.parse_toText (portable_queries _ _))
      described started ⟨.undeclared, "yy", first⟩
  have others : ∀ flaw : Flaw, flaw ≠ .undeclared →
      flaw.found ["ab", "cd"] ["ab >> yy", "zz >> cd"] = [] := by
    intro flaw other
    cases flaw with
    | repeated => decide +kernel
    | undeclared => exact absurd rfl other
    | malformed => decide +kernel
  have alone : ∀ (flaw : Flaw) (id : String), flaw.In decoded id → flaw = .undeclared := by
    intro flaw id here
    by_contra other
    rw [flawed, others flaw other] at here
    cases here
  have told := all.mpr fun flaw id here => (alone flaw id here).trans (alone sort _ some).symm
  exact ⟨decoded, rejection, described, first, second, rejected, told _ _ first, told _ _ second⟩

/-- An id that occurs twice keeps a malformed one and an undeclared one from being told. -/
theorem repeated_id_conceals_others :
    let document := queries ["ab", "ab", "1x"] ["ab >> zz"]
    let files := besideQueries ["ab", "ab", "1x"] ["ab >> zz"]
    ∃ text decoded rejection, files.readText "/w" = .ok text ∧ Value.parse text = .ok document ∧
      Describes document decoded ∧ StartDate.normalize decoded.startDate = .ok "2019, 7, 1" ∧
      load files "/w" = .error rejection ∧
      Flaw.malformed.In decoded "1x" ∧ Flaw.undeclared.In decoded "zz" ∧
      rejection.violations = [Rejection.duplicateLine "ab"] ∧
      ∀ line ∈ rejection.violations, ¬ TellsOf "1x" line ∧ ¬ TellsOf "zz" line := by
  obtain ⟨decoded, described, started, flawed⟩ := exists_describes_queries
    ["ab", "ab", "1x"] ["ab >> zz"] (by decide +kernel) (by decide +kernel)
  have ran : (fun _ => ()) <$> (load (besideQueries ["ab", "ab", "1x"] ["ab >> zz"]) "/w").mapError
      Rejection.violations = .error [Rejection.duplicateLine "ab"] := by
    rw [load_besideQueries]
    decide +kernel
  rw [map_eq_error_iff, mapError_eq_error_iff] at ran
  obtain ⟨rejection, rejected, alone⟩ := ran
  refine ⟨_, decoded, rejection, readText_besideQueries _ _, Json.parse_toText
    (portable_queries _ _), described, started, rejected, (flawed _ _).mpr (by decide +kernel),
    (flawed _ _).mpr (by decide +kernel), alone, ?_⟩
  have apart : ∀ id, id ≠ "ab" → ¬ TellsOf id (Rejection.duplicateLine "ab") := by
    rintro id other ⟨flaw, same⟩
    have same : Flaw.repeated.line "ab" = flaw.line id := same
    exact other (Flaw.line_inj same).2.symm
  rw [alone]
  exact List.forall_mem_singleton.mpr ⟨apart "1x" (by decide), apart "zz" (by decide)⟩

end WorkflowCompiler.Workflow
