import WorkflowCompiler.Proofs.Script.Reading
import WorkflowCompiler.Proofs.Script.Recompiled
import WorkflowCompiler.Proofs.Workflow.TableLayout

/-!
The code of a table creation. Below the line that names the task each argument has a line of its
own, which begins with the name of the argument. Main result: whatever document lays the table
out, the clustering and the partitioning that are passed are those that it asks for.
-/
namespace WorkflowCompiler.Script

open Json (Value Members)
open Workflow (Task TableLayout CreateParameters)

def createTemplate : Mode → Template
  | .standalone => Templates.createLocal
  | .deployable => Templates.createDeployable

def argumentHoles (mode : Mode) : List Hole :=
  (((createTemplate mode).parts.take 1).flatMap (·.body)).drop 3

def clusteringOpening : Mode → String
  | .standalone => "                            bq_table_clustering_fields="
  | .deployable => "                   \"bq_table_clustering_fields\": "

def partitioningOpening : Mode → String
  | .standalone => "                            time_partitioning="
  | .deployable => "                   \"time_partitioning\": "

theorem createTemplate_mem_all (mode : Mode) : createTemplate mode ∈ Templates.all := by
  cases mode <;> simp [createTemplate, Templates.all]

theorem argumentHoles_eq (mode : Mode) : argumentHoles mode =
    (((piecesOf (createTemplate mode)).take 1).flatten.drop 3).map Piece.hole := by
  rw [argumentHoles, List.flatMap_def, List.map_take, map_body_eq (createTemplate_mem_all mode),
    ← List.map_take, ← List.map_flatten, List.map_drop]

theorem leads_arguments (mode : Mode) :
    Leads (clusteringOpening mode).toList (.literal "clustering_fields")
      (cutLines (argumentHoles mode)) ∧
    Leads (partitioningOpening mode).toList (.literal "time_partitioning")
      (cutLines (argumentHoles mode)) := by
  have spelled := argumentHoles_eq mode
  cases mode with
  | standalone | deployable =>
    exact ⟨@leads_cutLines _ _ (.literal "clustering_fields") _ _ rfl spelled (by decide +kernel),
      @leads_cutLines _ _ (.literal "time_partitioning") _ _ rfl spelled (by decide +kernel)⟩

theorem tidy_argumentHoles (mode : Mode) : Tidy (argumentHoles mode) := by
  rw [argumentHoles_eq]
  refine tidy_of_isTidy ?_
  cases mode <;> decide +kernel

theorem raw_not_mem_argumentHoles (mode : Mode) (name : String) :
    .raw name ∉ argumentHoles mode := by
  cases mode <;>
    simp [argumentHoles, createTemplate, Templates.createLocal, Templates.createDeployable,
      Part.body]

section Codes

variable {ctx : Context} {files : Files.Tree} {mode : Mode} {task : Task} {p : CreateParameters}
  {layout : TableLayout} {document values : Members} {id s : String}

/-- Below the line that names the task come those of the arguments. -/
theorem exists_argumentLines (named : values.get? "task_id" = some (.text id))
    (rendered : (createTemplate mode).render values = .ok s) : ∃ rest lines more,
      s.toList = (openingLine mode .createTable id).toList ++ '\n' :: rest ∧
      Text.splitAtEach (· == '\n') rest = lines ++ more ∧
      List.Forall₂ (fun line l => fillAll values line = .ok l)
        (cutLines (argumentHoles mode)) lines := by
  obtain ⟨filling, rest, filled, begins⟩ : ∃ filling rest,
      fillAll values (argumentHoles mode) = .ok filling ∧
      s.toList = (openingLine mode .createTable id).toList ++ '\n' :: (filling ++ rest) := by
    cases mode
    all_goals
      obtain ⟨filling, rest, filled, begins⟩ := Template.exists_opening rfl named rendered
      refine ⟨filling, rest, filled, ?_⟩
      rw [begins]
      simp [openingLine, headOf]
  have safe : RawsUnbroken values (argumentHoles mode) := fun name _ raw =>
    absurd raw (raw_not_mem_argumentHoles mode name)
  obtain ⟨lines, cut, lined⟩ := fillAll_lined (tidy_argumentHoles mode) safe filled
  exact ⟨filling ++ rest, lines, _, begins, lined.splitAtEach_append rest, mapM_eq_ok_iff.mp cut⟩

/-- Whatever file lays the table out, there is code for its creation if the layout can be loaded,
and it is made from this layout. -/
theorem exists_createCode (mode : Mode) (creates : task.decodeParameters = .ok (.createTable p))
    (loaded : loadLayout ctx files task p.layoutFile = .ok (layout, document)) : ∃ values f,
      compileTask ctx files mode task = .ok (some f) ∧
      (createTemplate mode).render values = .ok f.code ∧
      values.get? "task_id" = some (.text task.id) ∧
      values.get? "clustering_fields" = some (layout.clustering?.elim .null .texts) ∧
      values.get? "time_partitioning" = some (layout.timePartitioning?.getD .null) := by
  obtain ⟨f, made, _⟩ : ∃ f, compileCreate ctx files mode task p = .ok f ∧
      f.updates = layoutUpdates document := by
    refine map_eq_ok_iff.mp ((updates_compileCreate p).trans ?_)
    rw [loaded]
    rfl
  have compiled : compileTask ctx files mode task = .ok (some f) :=
    bind_eq_ok_iff.mpr ⟨.createTable p, mapError_eq_ok_iff.mpr creates,
      map_eq_ok_iff.mpr ⟨f, made, rfl⟩⟩
  obtain ⟨other, again, made⟩ := bind_eq_ok_iff.mp made
  cases loaded.symm.trans again
  obtain ⟨code, rendered, made⟩ := bind_eq_ok_iff.mp made
  cases made
  cases mode
  all_goals
    exact ⟨_, _, compiled, rendered, rfl, rfl, rfl⟩

end Codes

/-- Clustered tables are always partitioned in the code that creates them. Whatever document lays
out the table, the code passes the clustering and the partitioning that it asks for, in either mode;
the first is read back, and so is the second where its numbers are integers. -/
theorem clustered_tables_partitioned {ctx : Context} {files : Files.Tree} {task : Task}
    {p : CreateParameters} {layout : TableLayout} {document : Members}
    (creates : task.decodeParameters = .ok (.createTable p))
    (loaded : loadLayout ctx files task p.layoutFile = .ok (layout, document)) (mode : Mode) :
    ∃ f rest clusters partitions, compileTask ctx files mode task = .ok (some f) ∧
      f.code.toList = (openingLine mode .createTable task.id).toList ++ '\n' :: rest ∧
      Passes (clusteringOpening mode) (Text.splitAtEach (· == '\n') rest) clusters ∧
      Passes (partitioningOpening mode) (Text.splitAtEach (· == '\n') rest) partitions ∧
      TableLayout.Asks document clusters partitions ∧
      (clusters ≠ .null → ∃ members, partitions = .object members) ∧
      literalAfter (clusteringOpening mode) (Text.splitAtEach (· == '\n') rest) =
        some clusters ∧
      (Integral partitions →
        literalAfter (partitioningOpening mode) (Text.splitAtEach (· == '\n') rest) =
          some partitions) := by
  obtain ⟨text, _, parsed, decoded⟩ := loadLayout_eq_ok_iff.mp loaded
  obtain ⟨fits, rfl⟩ := TableLayout.decode_eq_ok_iff.mp decoded
  obtain ⟨values, f, compiled, rendered, named, clustered, partitioned⟩ :=
    exists_createCode mode creates loaded
  obtain ⟨rest, lines, more, begins, cut, filled⟩ := exists_argumentLines named rendered
  obtain ⟨leadsClustering, leadsPartitioning⟩ := leads_arguments mode
  have asks := TableLayout.asks_of_fits fits
  have ordered := Json.ordered_of_parse parsed
  have clusters := leadsClustering.passes (fill_literal clustered) filled more
  have partitions := leadsPartitioning.passes (fill_literal partitioned) filled more
  rw [String.ofList_toList] at clusters partitions
  refine ⟨f, rest, _, _, compiled, begins, cut ▸ clusters, cut ▸ partitions, asks,
    asks.record_of_clusters, cut ▸ clusters.literalAfter_eq asks.ordered_clusters ?_,
    fun integral => cut ▸ partitions.literalAfter_eq (asks.ordered_partitions ordered) integral⟩
  rcases asks.clustered with ⟨fields, _, there⟩ | ⟨null, _⟩
  · rw [there]
    exact integral_texts fields
  · rw [null]
    exact .null

/-- A layout that clusters a table by one field; the text of its expiration begins with a space. -/
def clusteredLayout : Members := [
  ("bq_table_clustering_fields", .texts ["a"]),
  ("bq_table_description", .text "d"),
  ("bq_table_schema", .list []),
  ("bq_table_timepartitioning_expiration_ms", .text " +86400")]

def besideClusteredLayout : Files.Tree where
  nodes := [(["l"], .file (Value.object clusteredLayout).toText.toUTF8 false)]
  workingDirectory := []

def createsTable : Task where
  id := "ab"
  type := some "create_gbq_table"
  shortDescription := none
  docFile := none
  project := none
  dataset := none
  writeDisposition := none
  temporaryTable := none
  parameters := [("bq_table", .text "t"), ("ddl_file", .text "l")]

theorem portable_clusteredLayout :
    Json.Portable Json.depthLimit (.object clusteredLayout) := by
  have keys : ["bq_table_clustering_fields", "bq_table_description", "bq_table_schema",
      "bq_table_timepartitioning_expiration_ms"].Pairwise (· < ·) := by decide
  refine .object (List.pairwise_map.mp keys) ?_
  simp only [clusteredLayout, List.forall_mem_cons, List.not_mem_nil, false_imp_iff, implies_true,
    and_true, Json.Portable.text, true_and]
  exact ⟨.list (by simp [Json.Portable.text]), .list (by simp)⟩

theorem loadLayout_clusteredLayout {ctx : Context} (place : ctx.resolve "l" = "/l") :
    loadLayout ctx besideClusteredLayout createsTable "l" =
      .ok (TableLayout.ofMembers clusteredLayout, clusteredLayout) := by
  have written : besideClusteredLayout.readBytes "/l" =
      .ok (Value.object clusteredLayout).toText.toUTF8 := rfl
  refine loadLayout_eq_ok_iff.mpr ⟨_, ?_, Json.parse_toText portable_clusteredLayout, rfl⟩
  rw [place]
  exact Workflow.readText_eq_ok_iff.mpr written

/-- The node of a clustered table has a record, in which the expiration is a number. -/
theorem clustered_tables_partitioned_by_number :
    let ctx : Context := ⟨"c", "e", "p", "d", "w", "/"⟩
    ∃ p layout f rest, createsTable.decodeParameters = .ok (.createTable p) ∧
      loadLayout ctx besideClusteredLayout createsTable p.layoutFile =
        .ok (layout, clusteredLayout) ∧
      compileTask ctx besideClusteredLayout .deployable createsTable = .ok (some f) ∧
      f.code.toList = (openingLine .deployable .createTable "ab").toList ++ '\n' :: rest ∧
      literalAfter "                   \"bq_table_clustering_fields\": "
        (Text.splitAtEach (· == '\n') rest) = some (.texts ["a"]) ∧
      literalAfter "                   \"time_partitioning\": "
        (Text.splitAtEach (· == '\n') rest) = some (.object [
          ("expiration_ms", .number (.integer 86400)),
          ("field", .null),
          ("require_partition_filter", .null)]) := by
  intro ctx
  have creates : createsTable.decodeParameters = .ok (.createTable ⟨"l", "t", false⟩) := rfl
  have place : ctx.resolve "l" = "/l" := by decide +kernel
  have loaded := loadLayout_clusteredLayout place
  have spelled : TableLayout.Signed64 (Text.trimmed " +86400".toList) 86400 :=
    TableLayout.signed64?_eq_some_iff.mp (by decide +kernel)
  have clustered : TableLayout.Clustered clusteredLayout ["a"] := ⟨rfl, by decide⟩
  obtain ⟨f, rest, clusters, partitions, compiled, begins, _, _, asks, _, reads, readsRecord⟩ :=
    clustered_tables_partitioned creates loaded .deployable
  have fields : clusters = .texts ["a"] := by
    rcases asks.clustered with ⟨fields, ⟨found, _⟩, there⟩ | ⟨_, null | none⟩
    · rw [there, ← Option.some.inj (found.symm.trans clustered.1)]
    · cases null
    · cases none
  obtain ⟨members, there⟩ := asks.record.mpr (.inr (.inr (.inr ⟨_, clustered⟩)))
  obtain ⟨expiration, expires, rfl⟩ := asks.content members there
  cases expires.eq_of_signed64 spelled
  refine ⟨_, _, f, rest, creates, loaded, compiled, begins, fields ▸ reads,
    readsRecord (.object ?_)⟩
  simp only [List.forall_mem_cons, List.not_mem_nil, false_imp_iff, implies_true, and_true]
  exact ⟨.integer 86400, .null, .null⟩

end WorkflowCompiler.Script
