import WorkflowCompiler.Proofs.Json.RoundTrip
import WorkflowCompiler.Proofs.Workflow.Accepted
import WorkflowCompiler.Proofs.Workflow.TaskDocument

/-!
Loading keeps the document. A specification that has been loaded is written as its document with
a few edits, and it is loaded from what is written as it is.
-/
namespace WorkflowCompiler.Workflow

open Json (Value Members Field Form Ordered Portable)

/-- The canonical form of a start date; other texts stay as they are. -/
def StartDate.canonical (s : String) : String :=
  (normalize s).toOption.getD s

namespace Spec

def optionalFields : List String := ["doc_md", "account"]

/-- Fields that may be null and are go, defaults are filled in, white space around the environment
goes, and the start date and the tasks come into normal form. -/
def editedMembers (named : Members) : Members :=
  named
    |>.dropNulls optionalFields
    |>.fill "environment" (.text "PROD")
    |>.fill "max_active_runs" (.ofNat 1)
    |>.fill "task_concurrency" (.ofNat 5)
    |>.fill "catchup" (.flag false)
    |>.alter "environment" (.mapText Text.trim)
    |>.alter "start_date" (.mapText StartDate.canonical)
    |>.alter "workflow" (.mapItems (.mapMembers Task.normalMembers))

def editedFields : List String :=
  ["doc_md", "account", "environment", "max_active_runs", "task_concurrency", "catchup",
    "start_date", "workflow"]

/-- The document of a specification with all that loading changes. -/
def normalMembers (members : Members) : Members :=
  editedMembers (renameDefaultDataset members)

def fields (spec : Spec) : List (String × Option Value) := [
  ("configuration_id", some (.text spec.configurationId)),
  ("environment", some (.text spec.environment)),
  ("start_date", some (.text spec.startDate)),
  ("schedule_interval", some (.text spec.scheduleInterval)),
  ("max_active_runs", some (.ofNat spec.maxActiveRuns)),
  ("task_concurrency", some (.ofNat spec.taskConcurrency)),
  ("catchup", some (.flag spec.catchup)),
  ("short_description", some (.text spec.shortDescription)),
  ("doc_md", spec.docFile.map .text),
  ("default_gcp_project_id", some (.text spec.defaultProject)),
  ("default_bq_dataset", some (.text spec.defaultDataset)),
  ("default_write_disposition", some (.text spec.defaultWriteDisposition)),
  ("task_dependencies", some (.texts spec.dependencies)),
  ("workflow", some (.list (spec.tasks.map Task.toValue))),
  ("account", spec.account)]

/-- A specification that a document can hold. -/
structure Proper (spec : Spec) : Prop where
  written : record.Writes spec.fields spec.extra
  runs : spec.maxActiveRuns < 2 ^ 32
  concurrency : spec.taskConcurrency < 2 ^ 32
  tasks : ∀ task ∈ spec.tasks, task.Proper
  account : spec.account ≠ some .null

theorem toValue_eq (spec : Spec) :
    spec.toValue = .object (Members.ofList (Members.present spec.fields ++ spec.extra)) := rfl

theorem members_toValue (spec : Spec) :
    spec.toValue.members = Members.ofList (Members.present spec.fields ++ spec.extra) := by
  rw [toValue_eq]
  rfl

theorem keeps_record : ∀ f ∈ record.fields, f.form.Keeps := by
  simp only [record, Field.needed, Field.spare, List.forall_mem_cons, List.not_mem_nil,
    false_imp_iff, implies_true, and_true]
  exact ⟨Form.keeps_text, Form.keeps_text, Form.keeps_text, Form.keeps_text,
    Form.keeps_natural 32 "u32", Form.keeps_natural 32 "u32", Form.keeps_flag, Form.keeps_text,
    Form.keeps_text.optional, Form.keeps_text, Form.keeps_text, Form.keeps_text,
    Form.keeps_text.list, Task.keeps_form.list, Form.keeps_any⟩

theorem decode_eq_ok_iff {members : Members} {decoded : Spec} :
    decode (.object members) = .ok decoded ↔ record.Fits members ∧ decoded = ofMembers members := by
  rw [decode, bind_eq_ok_iff]
  constructor
  · rintro ⟨_, accepts, h⟩
    obtain ⟨rfl, _, same, fits⟩ := (Json.Record.accept_form_iff rfl keeps_record).mp accepts
    cases same
    exact ⟨fits, (Except.ok.inj h).symm⟩
  · rintro ⟨fits, rfl⟩
    exact ⟨_, (Json.Record.accept_form_iff rfl keeps_record).mpr ⟨rfl, _, rfl, fits⟩, rfl⟩

section Rename

variable {members : Members} {key : String}

theorem get?_renameDefaultDataset (sorted : members.Sorted) (full : key ≠ "default_bq_dataset")
    (short : key ≠ "default_dataset") :
    (renameDefaultDataset members).get? key = members.get? key := by
  unfold renameDefaultDataset
  split
  · rfl
  · split
    · rfl
    · rw [Members.get?_insert, if_neg (Ne.symm full), Members.get?_erase sorted,
        if_neg (Ne.symm short)]

/-- The short name counts only where the full one is absent, and gives way to it there. -/
theorem get?_defaultDataset (sorted : members.Sorted) :
    (renameDefaultDataset members).get? "default_bq_dataset" =
        (members.get? "default_bq_dataset").or (members.get? "default_dataset") ∧
      (renameDefaultDataset members).get? "default_dataset" =
        (members.get? "default_bq_dataset").bind fun _ => members.get? "default_dataset" := by
  unfold renameDefaultDataset
  rw [Members.contains_eq_isSome]
  cases full : members.get? "default_bq_dataset" with
  | some v => exact ⟨full, rfl⟩
  | none =>
    cases short : members.get? "default_dataset" with
    | none => exact ⟨full, short⟩
    | some v =>
      refine ⟨?_, ?_⟩
      · rw [Option.isSome_none, if_neg (by decide), Members.get?_insert, if_pos rfl]
        rfl
      · rw [Option.isSome_none, if_neg (by decide), Members.get?_insert, if_neg (by decide),
          Members.get?_erase sorted, if_pos rfl]
        rfl

theorem ordered_renameDefaultDataset (ordered : Ordered (.object members)) :
    Ordered (.object (renameDefaultDataset members)) := by
  obtain ⟨sorted, each⟩ := ordered.of_object
  unfold renameDefaultDataset
  split
  · exact ordered
  · split
    · exact ordered
    · next v found =>
      refine .object ((sorted.erase _).insert _ v) fun m hm => ?_
      rcases Json.Members.mem_of_mem_insert hm with rfl | hm
      · exact each ("default_dataset", v) (Members.mem_of_get? found)
      · exact each m (List.mem_filter.mp hm).1

end Rename

section Members

variable {named : Members} {base start : String}

theorem sorted_editedMembers (sorted : named.Sorted) : (editedMembers named).Sorted :=
  (((((((sorted.dropNulls _).fill _ _).fill _ _).fill _ _).fill _ _).alter _ _).alter _ _).alter _ _

theorem get?_editedMembers (sorted : named.Sorted) {key : String} (kept : key ∉ editedFields) :
    (editedMembers named).get? key = named.get? key := by
  have optional : key ∉ optionalFields := by
    have edited : ∀ name ∈ optionalFields, name ∈ editedFields := by decide
    exact fun h => kept (edited key h)
  have apart : ∀ name ∈ editedFields, name ≠ key := fun name h same => kept (same ▸ h)
  simp only [editedFields, List.forall_mem_cons, ne_eq] at apart
  simp only [editedMembers, Members.get?_alter, Members.get?_fill, Members.get?_dropNulls sorted,
    optional, apart, if_false]

theorem get?_workflow (sorted : named.Sorted) : (editedMembers named).get? "workflow" =
    (named.get? "workflow").map (.mapItems (.mapMembers Task.normalMembers)) := by
  simp only [editedMembers, Members.get?_alter, Members.get?_fill, Members.get?_dropNulls sorted,
    optionalFields, List.mem_cons, List.not_mem_nil, String.reduceEq, or_false, ↓reduceIte]

/-- The workflow is a list of tasks. -/
theorem exists_items (ordered : Ordered (.object named)) (fits : record.Fits named) :
    ∃ items, named.get? "workflow" = some (.list items) ∧
      ∀ item ∈ items, ∃ own : Members, item = .object own ∧ own.Sorted ∧ Task.record.Fits own := by
  have field : record.field? "workflow" = some (.needed "workflow" (.list Task.record.form)) := rfl
  obtain ⟨v, found⟩ := fits.exists_get? field rfl
  obtain ⟨_, items, rfl, each⟩ :=
    (Form.accept_list_iff Task.keeps_form).mp (fits.accept field found)
  refine ⟨items, found, fun item hitem => ?_⟩
  obtain ⟨_, own, rfl, itemFits⟩ :=
    (Json.Record.accept_form_iff rfl Task.keeps_record).mp (each item hitem)
  have itemOrdered := (ordered.of_object.2 _ (Members.mem_of_get? found)).of_list _ hitem
  exact ⟨own, rfl, itemOrdered.of_object.1, itemFits⟩

theorem tasks_settle {items : List Value} (found : named.get? "workflow" = some (.list items)) :
    ((ofMembers named).settle base start).tasks =
      items.map fun item => (Task.ofMembers item.members).normalize := by
  simp [settle, normalize, ofMembers, Members.items?, found]

theorem proper_settle (ordered : Ordered (.object named)) (fits : record.Fits named) :
    ((ofMembers named).settle base start).Proper where
  written := {
    names := rfl
    distinct := by decide
    sorted := ordered.of_object.1.filter _
    apart := fun m hm => by simpa using (List.mem_filter.mp hm).2 }
  runs := by
    have field : record.field? "max_active_runs" =
      some (.spare "max_active_runs" (.natural 32 "u32")) := rfl
    exact fits.nat_lt field (by decide)
  concurrency := by
    have field : record.field? "task_concurrency" =
      some (.spare "task_concurrency" (.natural 32 "u32")) := rfl
    exact fits.nat_lt field (by decide)
  tasks := by
    obtain ⟨items, found, each⟩ := exists_items ordered fits
    rw [tasks_settle found]
    intro task htask
    obtain ⟨item, hitem, rfl⟩ := List.mem_map.mp htask
    obtain ⟨own, rfl, sorted, _⟩ := each item hitem
    exact (Task.proper_ofMembers sorted).normalize
  account := Members.present?_ne_null

/-- The document that a specification is written as is the one that it was read from, edited. -/
theorem toValue_settle (ordered : Ordered (.object named)) (fits : record.Fits named)
    (started : StartDate.normalize (ofMembers named).startDate = .ok start) :
    ((ofMembers named).settle base start).toValue = .object (editedMembers named) := by
  have sorted := ordered.of_object.1
  rw [toValue_eq]
  refine congrArg Value.object ((proper_settle ordered fits).written.eq_of_get?
    (sorted_editedMembers sorted) ?_ ?_)
  · -- one conjunct for each field: what it is written as is what the edits leave there
    simp only [fields, List.forall_mem_cons, List.not_mem_nil, false_imp_iff, implies_true,
      and_true, editedMembers, Members.get?_alter, Members.get?_fill, Members.get?_dropNulls sorted]
    simp only [optionalFields, List.mem_cons, List.not_mem_nil, String.reduceEq, or_false, or_true,
      ↓reduceIte]
    refine ⟨(fits.text_needed rfl _).symm, ?_, ?_, (fits.text_needed rfl _).symm,
      congrArg some (fits.nat_getD rfl _).symm, congrArg some (fits.nat_getD rfl _).symm,
      congrArg some (fits.flag_getD rfl _).symm, (fits.text_needed rfl _).symm,
      (fits.text?_map rfl).symm, (fits.text_needed rfl _).symm, (fits.text_needed rfl _).symm,
      (fits.text_needed rfl _).symm, (fits.texts_needed rfl).symm, ?_, rfl⟩
    · rw [← fits.text_getD rfl "PROD"]
      rfl
    · have canonical : StartDate.canonical (ofMembers named).startDate = start := by
        rw [StartDate.canonical, started]
        rfl
      rw [← fits.text_needed rfl "", ← canonical]
      rfl
    · obtain ⟨items, found, each⟩ := exists_items ordered fits
      rw [found, tasks_settle found, List.map_map]
      refine congrArg (fun items => some (Value.list items))
        (List.map_congr_left fun item hitem => ?_)
      obtain ⟨own, rfl, ownSorted, ownFits⟩ := each item hitem
      exact (Task.toValue_normalize ownSorted ownFits).symm
  · intro key unknown
    have kept : key ∉ editedFields := by
      intro edited
      have known : ∀ name ∈ editedFields, name ∈ record.fields.map (·.name) := by decide
      exact Json.Record.field?_eq_none_iff.mp unknown (known key edited)
    rw [get?_editedMembers sorted kept]
    exact (Members.get?_filter_of_kept sorted.nodup fun _ => by simp [unknown]).symm

end Members

section RoundTrip

variable {spec : Spec}

theorem fits_toValue (proper : spec.Proper) : record.Fits spec.toValue.members := by
  have text : ∀ (name : String) (required : Bool) (s : String),
      Field.Suits ⟨name, required, .text⟩ (name, some (.text s)) :=
    fun _ _ _ => Field.suits_some rfl
  have number : ∀ (name : String) (n : Nat), n < 2 ^ 32 →
      (Field.spare name (.natural 32 "u32")).Suits (name, some (.ofNat n)) :=
    fun _ n small => Field.suits_some (Form.accept_natural_iff.mpr ⟨rfl, n, rfl, small⟩)
  have texts : (Form.list .text).accept (.texts spec.dependencies) =
      .ok (.texts spec.dependencies) := by
    refine (Form.accept_list_iff Form.keeps_text).mpr ⟨rfl, _, rfl, fun v hv => ?_⟩
    obtain ⟨s, _, rfl⟩ := List.mem_map.mp hv
    rfl
  have workflow : (Form.list Task.record.form).accept (.list (spec.tasks.map Task.toValue)) =
      .ok (.list (spec.tasks.map Task.toValue)) := by
    refine (Form.accept_list_iff Task.keeps_form).mpr ⟨rfl, _, rfl, fun v hv => ?_⟩
    obtain ⟨task, htask, rfl⟩ := List.mem_map.mp hv
    exact (Json.Record.accept_form_iff rfl Task.keeps_record).mpr
      ⟨rfl, _, rfl, Task.fits_toValue (proper.tasks task htask)⟩
  rw [members_toValue]
  exact proper.written.fits (.cons (text _ _ _) (.cons (text _ _ _) (.cons (text _ _ _)
    (.cons (text _ _ _) (.cons (number _ _ proper.runs) (.cons (number _ _ proper.concurrency)
    (.cons (Field.suits_some rfl) (.cons (text _ _ _)
    (.cons (Field.suits_spare (Form.accept_text? _)) (.cons (text _ _ _) (.cons (text _ _ _)
    (.cons (text _ _ _) (.cons (Field.suits_some texts) (.cons (Field.suits_some workflow)
    (.cons (Field.suits_spare fun _ _ => rfl) .nil)))))))))))))))

/-- A specification is read back from the document that it is written as, apart from what is not
in documents. -/
theorem ofMembers_toValue (proper : spec.Proper) :
    ofMembers spec.toValue.members = { spec with baseDirectory := "", docText := none } := by
  have lookup := proper.written.get?_field
  have extra := proper.written.filter_unknown
  rw [members_toValue]
  generalize Members.ofList _ = written at lookup extra ⊢
  simp only [fields, List.forall_mem_cons, List.not_mem_nil, false_imp_iff, implies_true,
    and_true] at lookup
  obtain ⟨configurationId, environment, startDate, scheduleInterval, maxActiveRuns,
    taskConcurrency, catchup, shortDescription, docFile, defaultProject, defaultDataset,
    defaultWriteDisposition, dependencies, workflow, account⟩ := lookup
  have tasks : (spec.tasks.map Task.toValue).map (fun v => Task.ofMembers v.members) =
      spec.tasks := by
    rw [List.map_map]
    refine (List.map_congr_left fun task htask => ?_).trans (List.map_id _)
    exact Task.ofMembers_toValue (proper.tasks task htask)
  have account : written.present? "account" = spec.account := by
    rw [Members.present?_of_ne_null (account ▸ proper.account), account]
  simp only [ofMembers, Members.text?_of_get? configurationId, Members.text?_of_get? environment,
    Members.text?_of_get? startDate, Members.text?_of_get? scheduleInterval,
    Members.nat?_of_get? maxActiveRuns, Members.nat?_of_get? taskConcurrency,
    Members.flag?_of_get? catchup, Members.text?_of_get? shortDescription,
    Members.text?_of_map docFile, Members.text?_of_get? defaultProject,
    Members.text?_of_get? defaultDataset, Members.text?_of_get? defaultWriteDisposition,
    Members.texts?_of_get? dependencies,
    Members.items?_of_get? workflow, tasks, account, extra, Option.getD_some]

/-- The fields that a document must have are those that the record asks for. -/
theorem requiredFields_eq : requiredFields = (record.fields.filter (·.required)).map (·.name) := rfl

theorem complete_toValue (proper : spec.Proper) : Complete spec.toValue.members where
  fields := by
    intro name hname
    rw [requiredFields_eq] at hname
    obtain ⟨f, hf, rfl⟩ := List.mem_map.mp hname
    obtain ⟨known, required⟩ := List.mem_filter.mp hf
    exact (fits_toValue proper).complete f known required
  ids := by
    have workflow : spec.toValue.members.items? "workflow" =
        some (spec.tasks.map Task.toValue) := by
      rw [members_toValue]
      exact Members.items?_of_get? (proper.written.get?_field
        ("workflow", some (.list (spec.tasks.map Task.toValue))) (by simp [Spec.fields]))
    rintro items hitems item hitem
    cases workflow.symm.trans hitems
    obtain ⟨task, htask, rfl⟩ := List.mem_map.mp hitem
    have id : task.toValue.members.get? "id" = some (.text task.id) := by
      rw [Task.members_toValue]
      exact (proper.tasks task htask).get?_field ("id", _) List.mem_cons_self
    rw [Value.get?, id]
    rfl

/-- The document that a specification is written as describes it. -/
theorem describes_toValue (proper : spec.Proper) :
    Describes spec.toValue { spec with baseDirectory := "", docText := none } := by
  have full : spec.toValue.members.contains "default_bq_dataset" = true :=
    (complete_toValue proper).fields _ (by decide)
  have same : renameDefaultDataset spec.toValue.members = spec.toValue.members := if_pos full
  refine ⟨spec.toValue.members, rfl, ?_, ?_⟩
  · rw [same]
    exact complete_toValue proper
  · rw [same]
    exact decode_eq_ok_iff.mpr ⟨fits_toValue proper, (ofMembers_toValue proper).symm⟩

/-- Bringing into normal form changes nothing more in a specification that is in it. -/
theorem settle_settle {decoded : Spec} {base start : String} (unread : decoded.docText = none) :
    ({ decoded.settle base start with baseDirectory := "", docText := none } : Spec).settle
      base start = decoded.settle base start := by
  simp only [settle, normalize, Text.trim_trim, List.map_map, Function.comp_def,
    Task.normalize_normalize, unread]

end RoundTrip

end Spec

/-- Loading keeps a document that is an ordered object. -/
theorem loadDocument_preserves {files : Files.Tree} {path base : String} {document : Value}
    {loaded : Loaded} (ordered : Ordered document)
    (accepted : loadDocument files path base document = .ok loaded) :
    ∃ members, document = .object members ∧
      Spec.record.Fits (renameDefaultDataset members) ∧
      loaded.spec.toValue = .object (Spec.normalMembers members) ∧
      ∀ again, loadDocument files again base loaded.spec.toValue = .ok loaded := by
  obtain ⟨decoded, start, ⟨members, rfl, _, decodes⟩, started, passes, documented⟩ :=
    loadDocument_eq_ok_iff.mp accepted
  obtain ⟨fits, rfl⟩ := Spec.decode_eq_ok_iff.mp decodes
  have named := Spec.ordered_renameDefaultDataset ordered
  generalize spelled : (Spec.ofMembers (renameDefaultDataset members)).settle base start = settled
    at passes documented
  have proper : settled.Proper := spelled ▸ Spec.proper_settle named fits
  have written : settled.toValue = .object (Spec.normalMembers members) :=
    spelled ▸ Spec.toValue_settle named fits started
  have unread : loaded.spec.toValue = settled.toValue := by
    rcases readDoc_eq_ok_iff.mp documented with ⟨_, same⟩ | ⟨_, text, _, _, same⟩
    · rw [same]
    · rw [same]
      rfl
  rw [unread]
  refine ⟨members, rfl, fits, written, fun again => ?_⟩
  -- the base directory is in no document; settling what is read back puts it in again
  have back : ({ settled with baseDirectory := "", docText := none } : Spec).settle base start =
      settled := by
    rw [← spelled]
    exact Spec.settle_settle rfl
  have canonical : StartDate.normalize settled.startDate = .ok start := by
    rw [← spelled]
    exact StartDate.normalize_normalize started
  refine loadDocument_eq_ok_iff.mpr ⟨_, start, Spec.describes_toValue proper, canonical, ?_, ?_⟩
  · rw [back]
    exact passes
  · rw [back]
    exact documented

/-- A document can hold what has been loaded from an ordered one. -/
theorem proper_of_loadDocument {files : Files.Tree} {path base : String} {document : Value}
    {loaded : Loaded} (ordered : Ordered document)
    (accepted : loadDocument files path base document = .ok loaded) : loaded.spec.Proper := by
  obtain ⟨decoded, start, ⟨members, rfl, _, decodes⟩, _, _, documented⟩ :=
    loadDocument_eq_ok_iff.mp accepted
  obtain ⟨fits, rfl⟩ := Spec.decode_eq_ok_iff.mp decodes
  have proper : ((Spec.ofMembers (renameDefaultDataset members)).settle base start).Proper :=
    Spec.proper_settle (Spec.ordered_renameDefaultDataset ordered) fits
  rcases readDoc_eq_ok_iff.mp documented with ⟨_, same⟩ | ⟨_, text, _, _, same⟩
  · rwa [same]
  · rw [same]
    exact ⟨proper.written, proper.runs, proper.concurrency, proper.tasks, proper.account⟩

theorem proper_of_load {files : Files.Tree} {path : String} {loaded : Loaded}
    (accepted : load files path = .ok loaded) : loaded.spec.Proper := by
  simp only [load, loadText, bind_eq_ok_iff, mapError_eq_ok_iff] at accepted
  obtain ⟨_, _, document, parsed, accepted⟩ := accepted
  exact proper_of_loadDocument (Json.ordered_of_parse parsed) accepted

/-- Loading keeps the document. What the loaded specification is written as differs from the
document that was read only by the edits of the normal form: other fields keep their values, at the
root and in each task, and the tasks and dependencies keep their order. It is loaded again as the
specification itself, also from a text. -/
theorem loadText_preserves_document {files : Files.Tree} {path base text : String}
    {loaded : Loaded} (accepted : loadText files path base text = .ok loaded) :
    ∃ members : Members, Value.parse text = .ok (.object members) ∧
      loaded.spec.toValue = .object (Spec.normalMembers members) ∧
      (∀ key, key ∉ ["default_bq_dataset", "default_dataset"] → key ∉ Spec.editedFields →
        (Spec.normalMembers members).get? key = members.get? key) ∧
      ((Spec.normalMembers members).get? "default_bq_dataset" =
          (members.get? "default_bq_dataset").or (members.get? "default_dataset") ∧
        (Spec.normalMembers members).get? "default_dataset" =
          (members.get? "default_bq_dataset").bind fun _ => members.get? "default_dataset") ∧
      (∃ items, members.get? "workflow" = some (.list items) ∧
        (Spec.normalMembers members).get? "workflow" =
          some (.list (items.map (.mapMembers Task.normalMembers))) ∧
        ∀ item ∈ items, ∃ own : Members, item = .object own ∧ ∀ key,
          Task.record.field? key = none → (Task.normalMembers own).get? key = own.get? key) ∧
      (∀ again, loadDocument files again base loaded.spec.toValue = .ok loaded) ∧
      ∀ again written, Value.parse written = .ok loaded.spec.toValue →
        loadText files again base written = .ok loaded := by
  obtain ⟨document, parsed, accepted⟩ := bind_eq_ok_iff.mp accepted
  rw [mapError_eq_ok_iff] at parsed
  have ordered := Json.ordered_of_parse parsed
  obtain ⟨members, rfl, fits, written, reloads⟩ := loadDocument_preserves ordered accepted
  have named := Spec.ordered_renameDefaultDataset ordered
  have sorted := ordered.of_object.1
  have kept : ∀ key ∉ Spec.editedFields, (Spec.normalMembers members).get? key =
      (renameDefaultDataset members).get? key :=
    fun key h => Spec.get?_editedMembers named.of_object.1 h
  obtain ⟨full, short⟩ := Spec.get?_defaultDataset sorted
  refine ⟨members, parsed, written, fun key apart unedited => ?_,
    ⟨(kept _ (by decide)).trans full, (kept _ (by decide)).trans short⟩, ?_, reloads, ?_⟩
  · simp only [List.mem_cons, List.not_mem_nil, or_false, not_or] at apart
    rw [kept key unedited, Spec.get?_renameDefaultDataset sorted apart.1 apart.2]
  · obtain ⟨items, found, each⟩ := Spec.exists_items named fits
    refine ⟨items, ?_, ?_, fun item hitem => ?_⟩
    · rwa [Spec.get?_renameDefaultDataset sorted (by decide) (by decide)] at found
    · rw [Spec.normalMembers, Spec.get?_workflow named.of_object.1, found]
      rfl
    · obtain ⟨own, rfl, ownSorted, _⟩ := each item hitem
      exact ⟨own, rfl, fun key unknown => Task.get?_normalMembers_of_unknown ownSorted unknown⟩
  · intro again text reread
    rw [loadText, reread]
    exact reloads again

/-- A document in which there is something to change wherever loading may change something, and
which has fields of its own. -/
def untidy : Value :=
  .object [
    ("account", .null),
    ("base_dir", .text "x"),
    ("configuration_id", .text "c"),
    ("default_dataset", .text "d"),
    ("default_gcp_project_id", .text "p"),
    ("default_write_disposition", .text "w"),
    ("doc_md", .null),
    ("doc_text", .list [.null]),
    ("environment", .text " DEV "),
    ("schedule_interval", .text "None"),
    ("short_description", .text "s"),
    ("start_date", .text "2019,07,1"),
    ("task_dependencies", .list [.text "cd >> ab"]),
    ("workflow", .list [
      .object [("doc_text", .null), ("id", .text " ab "), ("temporary_table", .null)],
      .object [("bq_dataset", .null), ("id", .text "cd"), ("task_type", .text "vm_launcher")]])]

theorem portable_untidy : Portable Json.depthLimit untidy := by
  have query : Portable 125
      (.object [("doc_text", .null), ("id", .text " ab "), ("temporary_table", .null)]) := by
    have keys : ["doc_text", "id", "temporary_table"].Pairwise (· < ·) := by decide
    refine .object (List.pairwise_map.mp keys) ?_
    simp [Portable.text, Portable.null]
  have launch : Portable 125
      (.object [("bq_dataset", .null), ("id", .text "cd"), ("task_type", .text "vm_launcher")]) := by
    have keys : ["bq_dataset", "id", "task_type"].Pairwise (· < ·) := by decide
    refine .object (List.pairwise_map.mp keys) ?_
    simp [Portable.text, Portable.null]
  have keys : ["account", "base_dir", "configuration_id", "default_dataset",
      "default_gcp_project_id", "default_write_disposition", "doc_md", "doc_text", "environment",
      "schedule_interval", "short_description", "start_date", "task_dependencies",
      "workflow"].Pairwise (· < ·) := by decide
  refine .object (List.pairwise_map.mp keys) ?_
  simp only [List.forall_mem_cons, List.not_mem_nil, false_imp_iff, implies_true, and_true,
    Portable.text, Portable.null, true_and]
  exact ⟨.list (by simp [Portable.null]), .list (by simp [Portable.text]),
    .list (by simpa using ⟨query, launch⟩)⟩

theorem loadText_preserves_document_untidy : ∃ loaded,
    loadText ⟨[], []⟩ "/w" "/" untidy.toText = .ok loaded ∧ loaded.spec.toValue = .object [
      ("base_dir", .text "x"),
      ("catchup", .flag false),
      ("configuration_id", .text "c"),
      ("default_bq_dataset", .text "d"),
      ("default_gcp_project_id", .text "p"),
      ("default_write_disposition", .text "w"),
      ("doc_text", .list [.null]),
      ("environment", .text "DEV"),
      ("max_active_runs", .ofNat 1),
      ("schedule_interval", .text "None"),
      ("short_description", .text "s"),
      ("start_date", .text "2019, 7, 1"),
      ("task_concurrency", .ofNat 5),
      ("task_dependencies", .list [.text "cd >> ab"]),
      ("workflow", .list [
        .object [("doc_text", .null), ("id", .text "ab"), ("temporary_table", .flag false)],
        .object [("id", .text "cd"), ("task_type", .text "vm_launcher")]])] := by
  have ran : (loadDocument ⟨[], []⟩ "/w" "/" untidy).toOption.isSome = true := by decide +kernel
  obtain ⟨loaded, accepted⟩ := Option.isSome_iff_exists.mp ran
  have read : loadText ⟨[], []⟩ "/w" "/" untidy.toText = .ok loaded := by
    rw [loadText, Json.parse_toText portable_untidy]
    exact toOption_eq_some_iff.mp accepted
  obtain ⟨members, parsed, written, _⟩ := loadText_preserves_document read
  cases (Json.parse_toText portable_untidy).symm.trans parsed
  refine ⟨loaded, read, written.trans ?_⟩
  rfl

end WorkflowCompiler.Workflow
