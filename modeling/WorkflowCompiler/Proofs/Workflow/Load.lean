import WorkflowCompiler.Proofs.Text.Utf8
import WorkflowCompiler.Proofs.Workflow.Checks
import WorkflowCompiler.Proofs.Workflow.StartDate
import WorkflowCompiler.Workflow.Load

/-!
Which documents are accepted, and what is made of them. A document is accepted exactly if it is
valid; what comes out is in normal form, so that bringing it into normal form or checking it once
more changes nothing.
-/
namespace WorkflowCompiler.Workflow

open Dependency (DependsOn)
open Json (Value Members)

/-- Every required field is there, and every item of the workflow has an id. -/
structure Complete (members : Members) : Prop where
  fields : ∀ name ∈ requiredFields, members.contains name = true
  ids : ∀ items, members.items? "workflow" = some items →
    ∀ item ∈ items, (item.get? "id").isSome = true

/-- A document is an object that says what `decoded` holds, the default dataset under its full
name. -/
def Describes (document : Value) (decoded : Spec) : Prop :=
  ∃ members, document = .object members ∧ Complete (renameDefaultDataset members) ∧
    Spec.decode (.object (renameDefaultDataset members)) = .ok decoded

/-- A document that says what `decoded` holds, and a workflow can be made of it. -/
structure Valid (files : Files.Tree) (base : String) (document : Value) (decoded : Spec) :
    Prop where
  describes : Describes document decoded
  started : ∃ start, StartDate.normalize decoded.startDate = .ok start
  sound : Sound (decoded.tasks.map fun task => Text.trim task.id) decoded.dependencies
  documented : ∀ file, decoded.docFile = some file →
    ∃ text : String, files.readBytes (Files.resolve base file) = .ok text.toUTF8

/-- A specification in normal form with exactly the graph of its dependencies. -/
structure Settled (spec : Spec) (graph : Dependency.Graph) : Prop where
  environment : Text.trim spec.environment = spec.environment
  ids : ∀ task ∈ spec.tasks, Text.trim task.id = task.id
  startDate : StartDate.normalize spec.startDate = .ok spec.startDate
  queries : ∀ task ∈ spec.tasks, task.kind = .query → task.temporaryTable.isSome = true
  passes : validate spec = .ok graph
  edges : ∀ a b, (a, b) ∈ graph.edges ↔ DependsOn spec.dependencies a b

theorem missingField?_eq_none_iff {members : Members} :
    missingField? members = none ↔ Complete members := by
  unfold missingField?
  split
  · next name found =>
    refine iff_of_false (by simp) fun complete => ?_
    obtain ⟨absent, required, _⟩ := List.find?_eq_some_iff_append.mp found
    simp [complete.fields name (List.mem_of_find?_eq_some found)] at absent
  · next found =>
    have fields : ∀ name ∈ requiredFields, members.contains name = true := by
      simpa using List.find?_eq_none.mp found
    simp only [Option.map_eq_none_iff, List.findIdx?_eq_none_iff]
    constructor
    · intro all
      refine ⟨fields, fun items hitems item hitem => ?_⟩
      rw [hitems] at all
      simpa [Option.isSome_iff_ne_none] using all item hitem
    · intro complete item hitem
      cases hitems : members.items? "workflow" with
      | none => simp [hitems] at hitem
      | some items =>
        rw [hitems] at hitem
        simpa [Option.isSome_iff_ne_none] using complete.ids items hitems item hitem

theorem requireFields_eq_ok_iff {members : Members} :
    requireFields members = .ok () ↔ Complete members := by
  rw [← missingField?_eq_none_iff, requireFields]
  split
  · next name found => simp [found]
  · next complete => exact iff_of_true rfl complete

theorem readText_eq_ok_iff {files : Files.Tree} {path text : String} :
    files.readText path = .ok text ↔ files.readBytes path = .ok text.toUTF8 := by
  rw [Files.Tree.readText, bind_eq_ok_iff]
  constructor
  · rintro ⟨bytes, hbytes, h⟩
    split at h
    · next found =>
      cases h
      rw [hbytes, Text.fromUTF8?_eq_some_iff.mp found]
    · cases h
  · intro h
    exact ⟨text.toUTF8, h, by rw [Text.fromUTF8?_eq_some_iff.mpr rfl]⟩

def Spec.settle (decoded : Spec) (base start : String) : Spec :=
  { decoded.normalize with baseDirectory := base, startDate := start }

theorem describe_eq_ok_iff {path base : String} {document : Value} {spec : Spec} :
    describe path base document = .ok spec ↔ ∃ decoded start, Describes document decoded ∧
      StartDate.normalize decoded.startDate = .ok start ∧ spec = decoded.settle base start := by
  unfold describe
  split
  · next members =>
    simp only [bind_eq_ok_iff, mapError_eq_ok_iff]
    constructor
    · rintro ⟨⟨⟩, present, decoded, hdecoded, start, hstart, h⟩
      cases h
      exact ⟨decoded, start, ⟨members, rfl, requireFields_eq_ok_iff.mp present, hdecoded⟩, hstart,
        rfl⟩
    · rintro ⟨decoded, start, ⟨_, same, complete, hdecoded⟩, hstart, rfl⟩
      cases same
      exact ⟨(), requireFields_eq_ok_iff.mpr complete, decoded, hdecoded, start, hstart, rfl⟩
  · next other =>
    refine iff_of_false (fun h => by cases h) ?_
    rintro ⟨_, _, ⟨members, rfl, _⟩, _⟩
    exact other members rfl

theorem readDoc_eq_ok_iff {files : Files.Tree} {spec documented : Spec} :
    spec.readDoc files = .ok documented ↔
      (spec.docFile = none ∧ documented = spec) ∨
      ∃ file text, spec.docFile = some file ∧
        files.readBytes (spec.resolve file) = .ok text.toUTF8 ∧
        documented = { spec with docText := some text } := by
  unfold Spec.readDoc
  split
  · next absent =>
    simp [absent, eq_comm]
  · next file named =>
    simp only [bind_eq_ok_iff, mapError_eq_ok_iff, readText_eq_ok_iff, named]
    constructor
    · rintro ⟨text, htext, h⟩
      cases h
      exact Or.inr ⟨file, text, rfl, htext, rfl⟩
    · rintro (⟨absurd, _⟩ | ⟨_, text, same, htext, rfl⟩)
      · cases absurd
      · cases same
        exact ⟨text, htext, rfl⟩

/-- A documentation file that can be read is what it takes. -/
theorem exists_readDoc_iff {files : Files.Tree} {spec : Spec} :
    (∃ documented, spec.readDoc files = .ok documented) ↔ ∀ file, spec.docFile = some file →
      ∃ text : String, files.readBytes (spec.resolve file) = .ok text.toUTF8 := by
  simp only [readDoc_eq_ok_iff]
  constructor
  · rintro ⟨_, ⟨absent, _⟩ | ⟨file, text, named, htext, _⟩⟩ other hother
    · rw [absent] at hother
      cases hother
    · cases named.symm.trans hother
      exact ⟨text, htext⟩
  · intro readable
    cases named : spec.docFile with
    | none => exact ⟨spec, Or.inl ⟨rfl, rfl⟩⟩
    | some file =>
      obtain ⟨text, htext⟩ := readable file named
      exact ⟨_, Or.inr ⟨file, text, rfl, htext, rfl⟩⟩

theorem loadDocument_eq_ok_iff {files : Files.Tree} {path base : String} {document : Value}
    {loaded : Loaded} : loadDocument files path base document = .ok loaded ↔
      ∃ decoded start, Describes document decoded ∧
        StartDate.normalize decoded.startDate = .ok start ∧
        validate (decoded.settle base start) = .ok loaded.graph ∧
        (decoded.settle base start).readDoc files = .ok loaded.spec := by
  simp only [loadDocument, bind_eq_ok_iff, describe_eq_ok_iff, Except.ok.injEq]
  constructor
  · rintro ⟨_, ⟨decoded, start, described, started, rfl⟩, graph, hgraph, spec, hspec, rfl⟩
    exact ⟨decoded, start, described, started, hgraph, hspec⟩
  · rintro ⟨decoded, start, described, started, hgraph, hspec⟩
    exact ⟨_, ⟨decoded, start, described, started, rfl⟩, _, hgraph, _, hspec, rfl⟩

section Settle

variable {decoded : Spec} {base start : String}

theorem ids_settle : (decoded.settle base start).tasks.map (·.id) =
    decoded.tasks.map fun task => Text.trim task.id := by
  simp [Spec.settle, Spec.normalize, Task.normalize]

theorem exists_readDoc_settle_iff {files : Files.Tree} :
    (∃ documented, (decoded.settle base start).readDoc files = .ok documented) ↔
      ∀ file, decoded.docFile = some file →
        ∃ text : String, files.readBytes (Files.resolve base file) = .ok text.toUTF8 :=
  exists_readDoc_iff

theorem kind_normalize (task : Task) : task.normalize.kind = task.kind := rfl

/-- Once the start date is canonical, checking the normal form is a matter of soundness. -/
theorem validate_settle_eq_ok_iff {graph : Dependency.Graph}
    (started : StartDate.normalize decoded.startDate = .ok start) :
    validate (decoded.settle base start) = .ok graph ↔
      Sound (decoded.tasks.map fun task => Text.trim task.id) decoded.dependencies ∧
        Dependency.Graph.ofExpressions decoded.dependencies = .ok graph := by
  rw [validate_eq_ok_iff, ids_settle]
  exact and_iff_right ⟨start, StartDate.normalize_normalize started⟩

theorem settled_of_validate {graph : Dependency.Graph}
    (started : StartDate.normalize decoded.startDate = .ok start)
    (passes : validate (decoded.settle base start) = .ok graph) :
    Settled (decoded.settle base start) graph where
  environment := Text.trim_trim decoded.environment
  ids := by
    intro task htask
    obtain ⟨given, _, rfl⟩ := List.mem_map.mp htask
    exact Text.trim_trim given.id
  startDate := StartDate.normalize_normalize started
  queries := by
    intro task htask query
    obtain ⟨given, _, rfl⟩ := List.mem_map.mp htask
    rw [kind_normalize] at query
    simp [Task.normalize, query]
  passes := passes
  edges := (Dependency.Graph.ofExpressions_spec (validate_eq_ok_iff.mp passes).2.2).2

end Settle

/-- The text of the documentation does not count for the checks. -/
theorem Settled.withDocText {spec : Spec} {graph : Dependency.Graph} (h : Settled spec graph)
    (text : Option String) : Settled { spec with docText := text } graph :=
  ⟨h.environment, h.ids, h.startDate, h.queries, h.passes, h.edges⟩

/-- What is accepted is valid. -/
theorem valid_of_loadDocument {files : Files.Tree} {base : String} {document : Value}
    {decoded spec : Spec} {start : String} {graph : Dependency.Graph}
    (described : Describes document decoded)
    (started : StartDate.normalize decoded.startDate = .ok start)
    (passes : validate (decoded.settle base start) = .ok graph)
    (hdoc : (decoded.settle base start).readDoc files = .ok spec) :
    Valid files base document decoded where
  describes := described
  started := ⟨start, started⟩
  sound := ((validate_settle_eq_ok_iff started).mp passes).1
  documented := exists_readDoc_settle_iff.mp ⟨spec, hdoc⟩

theorem exists_loadDocument_iff {files : Files.Tree} {path base : String} {document : Value} :
    (∃ loaded, loadDocument files path base document = .ok loaded) ↔
      ∃ decoded, Valid files base document decoded := by
  simp only [loadDocument_eq_ok_iff]
  constructor
  · rintro ⟨_, decoded, start, described, started, passes, hdoc⟩
    exact ⟨decoded, valid_of_loadDocument described started passes hdoc⟩
  · rintro ⟨decoded, described, ⟨start, started⟩, sound, readable⟩
    obtain ⟨graph, hgraph⟩ := sound.exists_graph
    have documented : ∃ spec, (decoded.settle base start).readDoc files = .ok spec :=
      exists_readDoc_settle_iff.mpr readable
    obtain ⟨spec, hspec⟩ := documented
    exact ⟨⟨spec, graph⟩, decoded, start, described, started,
      (validate_settle_eq_ok_iff started).mpr ⟨sound, hgraph⟩, hspec⟩

/-- Exactly the valid documents are accepted, whatever path they are said to come from. The
result is what the document says, brought into normal form: to trim its names, make its start
date canonical or check it once more changes nothing, and its graph has the edges of its
dependencies and no others. -/
theorem loadDocument_accepts_exactly_valid (files : Files.Tree) (path base : String)
    (document : Value) :
    ((∃ loaded, loadDocument files path base document = .ok loaded) ↔
      ∃ decoded, Valid files base document decoded) ∧
    (∀ text, Value.parse text = .ok document →
      loadText files path base text = loadDocument files path base document) ∧
    ∀ loaded, loadDocument files path base document = .ok loaded →
      Settled loaded.spec loaded.graph ∧
      (∃ decoded start, Valid files base document decoded ∧
        StartDate.normalize decoded.startDate = .ok start ∧
        loaded.spec = { decoded.settle base start with docText := loaded.spec.docText }) ∧
      ∀ file, loaded.spec.docFile = some file → ∃ text, loaded.spec.docText = some text ∧
        files.readBytes (loaded.spec.resolve file) = .ok text.toUTF8 := by
  refine ⟨exists_loadDocument_iff, ?_, ?_⟩
  · intro text h
    rw [loadText, h]
    rfl
  · intro loaded h
    obtain ⟨decoded, start, described, started, passes, hdoc⟩ := loadDocument_eq_ok_iff.mp h
    have valid := valid_of_loadDocument described started passes hdoc
    have settled := settled_of_validate started passes
    rcases readDoc_eq_ok_iff.mp hdoc with ⟨absent, same⟩ | ⟨file, text, named, htext, same⟩
    · rw [same]
      refine ⟨settled, ⟨decoded, start, valid, started, rfl⟩, fun file named => ?_⟩
      rw [absent] at named
      cases named
    · rw [same]
      refine ⟨settled.withDocText _, ⟨decoded, start, valid, started, rfl⟩, fun other hother => ?_⟩
      cases named.symm.trans hother
      exact ⟨text, rfl, htext⟩

end WorkflowCompiler.Workflow
