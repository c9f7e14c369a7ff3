import WorkflowCompiler.Json.Form
import WorkflowCompiler.Text.Blank
import WorkflowCompiler.Text.Alphanumeric

/-!
Table layouts: the documents that say what a created table looks like. A clustered table has to
be partitioned, so clustering calls for a partitioning record even without partitioning options.
-/
namespace WorkflowCompiler.Workflow

open Json (Value Members Field Record Form Mismatch)

structure TableLayout where
  description : String
  schema : List Value
  clusteringFields : Option (List String)
  partitioningField : Option String
  partitioningExpiration : Option Value
  requirePartitionFilter : Option Bool
  /-- Every field that is none of the above. -/
  extra : Members

namespace TableLayout

def record : Record where
  name := "DdlDocument"
  fields := [
    .needed "bq_table_description" .text,
    .needed "bq_table_schema" (.list .any),
    .spare "bq_table_clustering_fields" (.optional (.list .text)),
    .spare "bq_table_timepartitioning_field" (.optional .text),
    .spare "bq_table_timepartitioning_expiration_ms" .any,
    .spare "bq_table_timepartitioning_require_partition_filter" (.optional .flag)]
  positional := false

def fieldNames : List String := record.fields.map (·.name)

def ofMembers (members : Members) : TableLayout where
  description := (members.text? "bq_table_description").getD ""
  schema := (members.items? "bq_table_schema").getD []
  clusteringFields := members.texts? "bq_table_clustering_fields"
  partitioningField := members.text? "bq_table_timepartitioning_field"
  partitioningExpiration := members.present? "bq_table_timepartitioning_expiration_ms"
  requirePartitionFilter :=
    members.flag? "bq_table_timepartitioning_require_partition_filter"
  extra := members.filter fun m => (record.field? m.1).isNone

def decode (document : Value) : Except Mismatch TableLayout := do
  .ok (ofMembers (← record.form.accept document).members)

/-- The clustering fields, of which there must be at least one. -/
def clustering? (layout : TableLayout) : Option (List String) :=
  layout.clusteringFields.filter (· ≠ [])

/-- The signed 64-bit integer that a text writes in decimal, with an optional sign. -/
def signed64? (cs : List Char) : Option Int :=
  let (negative, digits) := match cs with
    | '-' :: rest => (true, rest)
    | '+' :: rest => (false, rest)
    | _ => (false, cs)
  if digits = [] ∨ !digits.all Text.isAsciiDigit then none
  else
    let n : Nat := digits.foldl (fun n c => n * 10 + (c.toNat - 48)) 0
    if negative then (if n ≤ Nat.pow 2 63 then some (-n) else none)
    else if n < Nat.pow 2 63 then some n
    else none

/-- An expiration that is written as a text becomes the integer it denotes, if it does. -/
def expirationValue : Value → Value
  | .text s =>
    match signed64? (Text.trimmed s.toList) with
    | some n => .number (.integer n)
    | none => .text s
  | v => v

/-- The partitioning record, present if any partitioning option or a clustering field is. -/
def timePartitioning? (layout : TableLayout) : Option Value :=
  if layout.partitioningField.isSome ∨ layout.partitioningExpiration.isSome ∨
      layout.requirePartitionFilter.isSome ∨ layout.clustering?.isSome then
    some (.object [
      ("expiration_ms", (layout.partitioningExpiration.map expirationValue).getD .null),
      ("field", .ofText? layout.partitioningField),
      ("require_partition_filter", layout.requirePartitionFilter.elim .null .flag)])
  else none

end TableLayout

end WorkflowCompiler.Workflow
