import WorkflowCompiler.Proofs.Json.Record
import WorkflowCompiler.Proofs.Text.Blank
import WorkflowCompiler.Workflow.Load

/-!
Documents of tasks. A task in normal form is written as the document that it was read from with a
few edits, and whatever task is written is read back as it is.
-/
namespace WorkflowCompiler.Workflow

open Json (Value Members Field Form)

namespace Task

def optionalFields : List String :=
  ["task_type", "short_description", "doc_md", "gcp_project_id", "bq_dataset", "write_disposition",
    "temporary_table"]

/-- The document of a task with all that loading changes: white space around the id goes, and so
does a field that may be null and is; a query says whether its table is temporary. -/
def normalMembers (members : Members) : Members :=
  let named := (members.dropNulls optionalFields).alter "id" (.mapText Text.trim)
  if Kind.ofType (members.text? "task_type") = .query then
    named.fill "temporary_table" (.flag false)
  else named

def fields (task : Task) : List (String × Option Value) := [
  ("id", some (.text task.id)),
  ("task_type", task.type.map .text),
  ("short_description", task.shortDescription.map .text),
  ("doc_md", task.docFile.map .text),
  ("gcp_project_id", task.project.map .text),
  ("bq_dataset", task.dataset.map .text),
  ("write_disposition", task.writeDisposition.map .text),
  ("temporary_table", task.temporaryTable.map .flag)]

/-- A task whose parameters do not bear the name of a field. -/
def Proper (task : Task) : Prop :=
  record.Writes task.fields task.parameters

theorem toValue_eq (task : Task) :
    task.toValue = .object (Members.ofList (Members.present task.fields ++ task.parameters)) := rfl

theorem members_toValue (task : Task) :
    task.toValue.members = Members.ofList (Members.present task.fields ++ task.parameters) := by
  rw [toValue_eq]
  rfl

theorem keeps_record : ∀ f ∈ record.fields, f.form.Keeps := by
  simp only [record, Field.needed, Field.spare, List.forall_mem_cons, List.not_mem_nil,
    false_imp_iff, implies_true, and_true]
  exact ⟨Form.keeps_text, Form.keeps_text.optional, Form.keeps_text.optional,
    Form.keeps_text.optional, Form.keeps_text.optional, Form.keeps_text.optional,
    Form.keeps_text.optional, Form.keeps_flag.optional⟩

theorem keeps_form : record.form.Keeps :=
  Json.Record.keeps_form rfl keeps_record

/-- Bringing a task into normal form twice is bringing it there once. -/
theorem normalize_normalize (task : Task) : task.normalize.normalize = task.normalize := by
  have trimmed : task.normalize.normalize.id = task.normalize.id := Text.trim_trim task.id
  have temporary : task.normalize.normalize.temporaryTable = task.normalize.temporaryTable := by
    by_cases query : task.kind = .query
    · have once : task.normalize.temporaryTable = some (task.temporaryTable.getD false) :=
        if_pos query
      have twice : task.normalize.normalize.temporaryTable =
          some (task.normalize.temporaryTable.getD false) := if_pos query
      rw [twice, once]
      rfl
    · exact if_neg query
  exact congrArg₂ (fun id temporary => { task.normalize with id, temporaryTable := temporary })
    trimmed temporary

section Members

variable {members : Members}

theorem proper_ofMembers (sorted : members.Sorted) : (ofMembers members).Proper where
  names := rfl
  distinct := by decide
  sorted := sorted.filter _
  apart := by
    intro m hm
    simpa using (List.mem_filter.mp hm).2

/-- Bringing a task into normal form leaves its parameters alone. -/
theorem Proper.normalize {task : Task} (proper : task.Proper) : task.normalize.Proper :=
  ⟨rfl, proper.distinct, proper.sorted, proper.apart⟩

theorem sorted_normalMembers (sorted : members.Sorted) : (normalMembers members).Sorted := by
  have named := (sorted.dropNulls optionalFields).alter "id" (.mapText Text.trim)
  unfold normalMembers
  dsimp only
  split
  · exact named.fill "temporary_table" (.flag false)
  · exact named

theorem get?_normalMembers (sorted : members.Sorted) (key : String) :
    (normalMembers members).get? key =
      if key = "id" then (members.get? key).map (.mapText Text.trim)
      else if key = "temporary_table" ∧ Kind.ofType (members.text? "task_type") = .query then
        some ((members.present? key).getD (.flag false))
      else if key ∈ optionalFields then members.present? key
      else members.get? key := by
  have named : ((members.dropNulls optionalFields).alter "id" (.mapText Text.trim)).get? key =
      if key = "id" then (members.get? key).map (.mapText Text.trim)
      else if key ∈ optionalFields then members.present? key else members.get? key := by
    rw [Members.get?_alter, Members.get?_dropNulls sorted]
    by_cases id : key = "id"
    · rw [if_pos id.symm, if_pos id, if_neg (by rw [id]; decide)]
    · rw [if_neg (Ne.symm id), if_neg id]
  unfold normalMembers
  dsimp only
  split
  · next query =>
    rw [Members.get?_fill, named]
    by_cases temporary : key = "temporary_table"
    · subst temporary
      have value : ((members.dropNulls optionalFields).alter "id" (.mapText Text.trim)).get?
          "temporary_table" = members.present? "temporary_table" :=
        named.trans ((if_neg (by decide)).trans (if_pos (by decide)))
      rw [if_pos rfl, value, if_neg (by decide), if_pos ⟨rfl, query⟩]
    · rw [if_neg (Ne.symm temporary), if_neg (c := _ ∧ _) fun h => temporary h.1]
  · next other =>
    rw [named, if_neg (c := _ ∧ _) fun h => other h.2]

/-- What is no field is kept. -/
theorem get?_normalMembers_of_unknown (sorted : members.Sorted) {key : String}
    (unknown : record.field? key = none) :
    (normalMembers members).get? key = members.get? key := by
  have apart := Json.Record.field?_eq_none_iff.mp unknown
  have known : ∀ name ∈ "id" :: optionalFields, name ∈ record.fields.map (·.name) := by decide
  have id : key ≠ "id" := by
    rintro rfl
    exact apart (known _ List.mem_cons_self)
  have optional : key ∉ optionalFields := fun h => apart (known key (List.mem_cons_of_mem _ h))
  have temporary : key ≠ "temporary_table" := by
    rintro rfl
    exact optional (by decide)
  rw [get?_normalMembers sorted, if_neg id, if_neg (c := _ ∧ _) fun h => temporary h.1,
    if_neg optional]

theorem get?_normalMembers_of_optional (sorted : members.Sorted) {key : String}
    (optional : key ∈ optionalFields) (apart : key ≠ "temporary_table") :
    (normalMembers members).get? key = members.present? key := by
  have id : key ≠ "id" := by
    rintro rfl
    exact absurd optional (by decide)
  rw [get?_normalMembers sorted, if_neg id, if_neg (c := _ ∧ _) fun h => apart h.1,
    if_pos optional]

/-- The document that a task is written as is the one that it was read from, edited. -/
theorem toValue_normalize (sorted : members.Sorted) (fits : record.Fits members) :
    (ofMembers members).normalize.toValue = .object (normalMembers members) := by
  have kept : ∀ key ∈ optionalFields, key ≠ "temporary_table" →
      record.field? key = some (.spare key (.optional .text)) →
      (normalMembers members).get? key = (members.text? key).map .text :=
    fun key optional apart field =>
      (get?_normalMembers_of_optional sorted optional apart).trans (fits.text?_map field).symm
  rw [toValue_eq]
  refine congrArg Value.object ((proper_ofMembers sorted).normalize.eq_of_get?
    (sorted_normalMembers sorted) ?_ ?_)
  · simp only [fields, List.forall_mem_cons, List.not_mem_nil, false_imp_iff, implies_true,
      and_true]
    refine ⟨?_, kept _ (by decide) (by decide) rfl, kept _ (by decide) (by decide) rfl,
      kept _ (by decide) (by decide) rfl, kept _ (by decide) (by decide) rfl,
      kept _ (by decide) (by decide) rfl, kept _ (by decide) (by decide) rfl, ?_⟩
    · rw [get?_normalMembers sorted, if_pos rfl, ← fits.text_needed rfl ""]
      rfl
    · have present : (members.flag? "temporary_table").map Value.flag =
          members.present? "temporary_table" := fits.flag?_map rfl
      rw [get?_normalMembers sorted, if_neg (by decide), ← present]
      by_cases query : Kind.ofType (members.text? "task_type") = .query
      · have filled : (ofMembers members).normalize.temporaryTable =
            some ((members.flag? "temporary_table").getD false) := if_pos query
        rw [if_pos ⟨rfl, query⟩, filled]
        cases members.flag? "temporary_table" <;> rfl
      · have same : (ofMembers members).normalize.temporaryTable =
            members.flag? "temporary_table" := if_neg query
        rw [if_neg (c := _ ∧ _) fun h => query h.2, if_pos (by decide), same]
  · intro key unknown
    rw [get?_normalMembers_of_unknown sorted unknown]
    exact (Members.get?_filter_of_kept sorted.nodup fun _ => by simp [unknown]).symm

end Members

section RoundTrip

variable {task : Task}

theorem fits_toValue (proper : task.Proper) : record.Fits task.toValue.members := by
  have text : ∀ (name : String) (s? : Option String),
      (Field.spare name (.optional .text)).Suits (name, s?.map .text) :=
    fun _ s? => Field.suits_spare (Form.accept_text? s?)
  rw [members_toValue]
  exact proper.fits (.cons (Field.suits_some rfl) (.cons (text _ _) (.cons (text _ _)
    (.cons (text _ _) (.cons (text _ _) (.cons (text _ _) (.cons (text _ _)
    (.cons (Field.suits_spare (Form.accept_flag? _)) .nil))))))))

/-- A task is read back from the document that it is written as. -/
theorem ofMembers_toValue (proper : task.Proper) : ofMembers task.toValue.members = task := by
  have lookup := proper.get?_field
  have parameters := proper.filter_unknown
  rw [members_toValue]
  generalize Members.ofList _ = written at lookup parameters ⊢
  simp only [fields, List.forall_mem_cons, List.not_mem_nil, false_imp_iff, implies_true,
    and_true] at lookup
  obtain ⟨id, type, shortDescription, docFile, project, dataset, writeDisposition,
    temporaryTable⟩ := lookup
  simp only [ofMembers, Members.text?_of_get? id, Option.getD_some, parameters,
    Members.text?_of_map type, Members.text?_of_map shortDescription, Members.text?_of_map docFile,
    Members.text?_of_map project, Members.text?_of_map dataset,
    Members.text?_of_map writeDisposition, Members.flag?_of_map temporaryTable]

end RoundTrip

end Task

end WorkflowCompiler.Workflow
