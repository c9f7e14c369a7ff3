import WorkflowCompiler.Proofs.Decimal.Digits
import WorkflowCompiler.Proofs.Json.Edit
import WorkflowCompiler.Proofs.Json.Record
import WorkflowCompiler.Workflow.TableLayout

/-!
What a document says about the layout of a table. It may name the fields of a clustering and give
three options of a partitioning, each of which may be null or absent. Main result: the arguments
that are made of an accepted document have a record of the partitioning exactly if one of the
options is there or the table is clustered, and apart from the expiration, which may be written as
a text, both are what the document says.
-/
namespace WorkflowCompiler.Workflow.TableLayout

open Json (Value Members Form)

/-- The text is decimal digits of the number with an optional sign, and the number is a signed one
of 64 bits. -/
def Signed64 (cs : List Char) (n : Int) : Prop :=
  ∃ sign digits m, cs = sign ++ digits ∧ Decimal.Spells digits m ∧
    (sign = ['-'] ∧ n = -m ∨ (sign = [] ∨ sign = ['+']) ∧ n = m) ∧
    -Nat.pow 2 63 ≤ n ∧ n < Nat.pow 2 63

/-- An expiration and the value it stands for: the integer that a text has between white space,
and any other value as it is. -/
inductive Expires : Value → Value → Prop
  | integer {s : String} {n : Int} : Signed64 (Text.trimmed s.toList) n →
      Expires (.text s) (.number (.integer n))
  | unchanged {v : Value} :
      (∀ s n, v = .text s → ¬ Signed64 (Text.trimmed s.toList) n) → Expires v v

def said (document : Members) (key : String) : Value :=
  (document.present? key).getD .null

/-- The document names the fields of a clustering, and there is at least one. -/
def Clustered (document : Members) (fields : List String) : Prop :=
  document.get? "bq_table_clustering_fields" = some (.texts fields) ∧ fields ≠ []

/-- The document has an option of a partitioning that is not null, or the table is clustered. -/
def Partitioned (document : Members) : Prop :=
  said document "bq_table_timepartitioning_field" ≠ .null ∨
  said document "bq_table_timepartitioning_expiration_ms" ≠ .null ∨
  said document "bq_table_timepartitioning_require_partition_filter" ≠ .null ∨
  ∃ fields, Clustered document fields

/-- The record of a partitioning: field and filter as the document has them, and an expiration. -/
def partitioning (document : Members) (expiration : Value) : Value :=
  .object [
    ("expiration_ms", expiration),
    ("field", said document "bq_table_timepartitioning_field"),
    ("require_partition_filter",
      said document "bq_table_timepartitioning_require_partition_filter")]

/-- Arguments for the clustering and the partitioning of a table that its document asks for. -/
structure Asks (document : Members) (clusters partitions : Value) : Prop where
  clustered : (∃ fields, Clustered document fields ∧ clusters = .texts fields) ∨
    clusters = .null ∧ (said document "bq_table_clustering_fields" = .null ∨
      said document "bq_table_clustering_fields" = .list [])
  record : (∃ members, partitions = .object members) ↔ Partitioned document
  nothing : partitions = .null ↔ ¬ Partitioned document
  content : ∀ members, partitions = .object members → ∃ expiration,
    Expires (said document "bq_table_timepartitioning_expiration_ms") expiration ∧
    partitions = partitioning document expiration

section Numbers

def signedValue (negative : Bool) (digits : List Char) : Option Int :=
  if digits = [] ∨ !digits.all Text.isAsciiDigit then none
  else
    let n : Nat := digits.foldl (fun n c => n * 10 + (c.toNat - 48)) 0
    if negative then (if n ≤ Nat.pow 2 63 then some (-n) else none)
    else if n < Nat.pow 2 63 then some n
    else none

variable {cs digits : List Char} {n : Int} {negative : Bool}

theorem signedValue_eq_some_iff : signedValue negative digits = some n ↔
    ∃ m : Nat, Decimal.Spells digits m ∧ n = (if negative then -(m : Int) else m) ∧
      -Nat.pow 2 63 ≤ n ∧ n < Nat.pow 2 63 := by
  have bounded : ∀ m : Nat, (if negative then (if m ≤ Nat.pow 2 63 then some (-(m : Int)) else none)
      else if m < Nat.pow 2 63 then some (m : Int) else none) = some n ↔
      n = (if negative then -(m : Int) else m) ∧ -Nat.pow 2 63 ≤ n ∧ n < Nat.pow 2 63 := by
    intro m
    cases negative with
    | true =>
      simp only [if_true, Option.ite_none_right_eq_some, Option.some.injEq, Nat.pow_eq]
      omega
    | false =>
      simp only [Bool.false_eq_true, if_false, Option.ite_none_right_eq_some, Option.some.injEq,
        Nat.pow_eq]
      omega
  unfold signedValue
  rw [Decimal.foldl_digits]
  dsimp only
  constructor
  · intro h
    split at h
    · cases h
    · next spelled =>
      simp only [not_or, Bool.not_eq_true, Bool.not_eq_false'] at spelled
      exact ⟨_, ⟨spelled.1, List.all_eq_true.mp spelled.2, rfl⟩, (bounded _).mp h⟩
  · rintro ⟨m, spelled, small⟩
    have all : digits.all Text.isAsciiDigit = true := List.all_eq_true.mpr spelled.digits
    rw [spelled.value, if_neg (by simp [spelled.nonempty, all])]
    exact (bounded m).mpr small

/-- The number with a sign before its digits or none. A sign is no digit. -/
theorem signed64?_eq_some_iff : signed64? cs = some n ↔ Signed64 cs n := by
  constructor
  · intro h
    have read : ∃ sign digits negative, cs = sign ++ digits ∧ signedValue negative digits = some n ∧
        (sign = ['-'] ∧ negative = true ∨ (sign = [] ∨ sign = ['+']) ∧ negative = false) := by
      unfold signed64? at h
      split at h
      next minus digits split =>
      split at split
      · cases split
        exact ⟨['-'], _, true, rfl, h, .inl ⟨rfl, rfl⟩⟩
      · cases split
        exact ⟨['+'], _, false, rfl, h, .inr ⟨.inr rfl, rfl⟩⟩
      · cases split
        exact ⟨[], _, false, rfl, h, .inr ⟨.inl rfl, rfl⟩⟩
    obtain ⟨sign, digits, negative, split, value, signed⟩ := read
    obtain ⟨m, spelled, same, small⟩ := signedValue_eq_some_iff.mp value
    refine ⟨sign, digits, m, split, spelled, ?_, small⟩
    rcases signed with ⟨minus, rfl⟩ | ⟨plus, rfl⟩
    · exact .inl ⟨minus, same⟩
    · exact .inr ⟨plus, same⟩
  · rintro ⟨sign, digits, m, rfl, spelled, signed, small⟩
    have value : ∀ negative, n = (if negative = true then -(m : Int) else m) →
        signedValue negative digits = some n := fun negative same =>
      signedValue_eq_some_iff.mpr ⟨m, spelled, same, small⟩
    rcases signed with ⟨rfl, same⟩ | ⟨rfl | rfl, same⟩
    · exact value true same
    · have first : ∀ c ∈ digits.head?, c.isDigit = true := fun c hc =>
        spelled.digits c (List.mem_of_mem_head? hc)
      rw [List.nil_append]
      unfold signed64?
      split
      next minus others split =>
      split at split
      · exact absurd (first '-' rfl) (by decide)
      · exact absurd (first '+' rfl) (by decide)
      · cases split
        exact value false same
    · exact value false same

theorem expires_expirationValue (v : Value) : Expires v (expirationValue v) := by
  unfold expirationValue
  split
  · next s =>
    split
    · next n read => exact .integer (signed64?_eq_some_iff.mp read)
    · next unread =>
      refine .unchanged ?_
      rintro _ n ⟨⟩ spelled
      cases unread.symm.trans (signed64?_eq_some_iff.mpr spelled)
  · next other => exact .unchanged fun s n same _ => other s same

/-- A text with a number stands for this number only. -/
theorem Expires.eq_of_signed64 {s : String} {v : Value} (expires : Expires (.text s) v)
    (spelled : Signed64 (Text.trimmed s.toList) n) : v = .number (.integer n) := by
  cases expires with
  | integer other =>
    cases (signed64?_eq_some_iff.mpr spelled).symm.trans (signed64?_eq_some_iff.mpr other)
    rfl
  | unchanged other => exact absurd spelled (other s n rfl)

end Numbers

section Documents

variable {document : Members}

theorem keeps_record : ∀ f ∈ record.fields, f.form.Keeps := by
  simp only [record, Json.Field.needed, Json.Field.spare, List.forall_mem_cons, List.not_mem_nil,
    false_imp_iff, implies_true, and_true]
  exact ⟨Form.keeps_text, Form.keeps_any.list, (Form.keeps_text.list).optional,
    Form.keeps_text.optional, Form.keeps_any, Form.keeps_flag.optional⟩

theorem decode_eq_ok_iff {layout : TableLayout} : decode (.object document) = .ok layout ↔
    record.Fits document ∧ layout = ofMembers document := by
  rw [decode, bind_eq_ok_iff]
  simp only [Json.Record.accept_form_iff rfl keeps_record]
  constructor
  · rintro ⟨_, ⟨rfl, _, same, fits⟩, made⟩
    cases same
    cases made
    exact ⟨fits, rfl⟩
  · rintro ⟨fits, rfl⟩
    exact ⟨_, ⟨rfl, _, rfl, fits⟩, rfl⟩

theorem isSome_present?_iff {key : String} :
    (document.present? key).isSome = true ↔ said document key ≠ .null := by
  have full : document.present? key ≠ some .null := Members.present?_ne_null
  rw [said]
  cases found : document.present? key with
  | none => simp
  | some v => simpa [found] using full

theorem clustering?_eq_some_iff (fits : record.Fits document) {fields : List String} :
    (ofMembers document).clustering? = some fields ↔ Clustered document fields := by
  have listed : (document.texts? "bq_table_clustering_fields").map Value.texts =
      document.present? "bq_table_clustering_fields" := fits.texts?_map rfl
  rw [clustering?, Option.filter_eq_some_iff]
  constructor
  · rintro ⟨texts, nonempty⟩
    change document.texts? "bq_table_clustering_fields" = some fields at texts
    rw [texts, Members.present?_eq_filter] at listed
    exact ⟨(Option.filter_eq_some_iff.mp listed.symm).1, of_decide_eq_true nonempty⟩
  · rintro ⟨found, nonempty⟩
    exact ⟨Members.texts?_of_get? found, decide_eq_true nonempty⟩

/-- A table is clustered, or its document has no fields for that. -/
theorem clustered_clustering? (fits : record.Fits document) :
    (∃ fields, Clustered document fields ∧
      (ofMembers document).clustering?.elim .null .texts = Value.texts fields) ∨
    (ofMembers document).clustering?.elim .null .texts = Value.null ∧
      (said document "bq_table_clustering_fields" = .null ∨
        said document "bq_table_clustering_fields" = .list []) := by
  have listed : (document.texts? "bq_table_clustering_fields").map Value.texts =
      document.present? "bq_table_clustering_fields" := fits.texts?_map rfl
  cases clustering : (ofMembers document).clustering? with
  | some fields => exact .inl ⟨fields, (clustering?_eq_some_iff fits).mp clustering, rfl⟩
  | none =>
    refine .inr ⟨rfl, ?_⟩
    have none := Option.filter_eq_none_iff.mp clustering
    rw [said, ← listed]
    cases texts : document.texts? "bq_table_clustering_fields" with
    | none => exact .inl rfl
    | some fields =>
      have empty : fields = [] := by simpa using none fields texts
      exact .inr (by rw [empty]; rfl)

theorem timePartitioning?_eq_some_iff (fits : record.Fits document) {v : Value} :
    (ofMembers document).timePartitioning? = some v ↔ Partitioned document ∧
      v = partitioning document
        (expirationValue (said document "bq_table_timepartitioning_expiration_ms")) := by
  have field : (document.text? "bq_table_timepartitioning_field").map Value.text =
      document.present? "bq_table_timepartitioning_field" := fits.text?_map rfl
  have filter :
      (document.flag? "bq_table_timepartitioning_require_partition_filter").map Value.flag =
      document.present? "bq_table_timepartitioning_require_partition_filter" := fits.flag?_map rfl
  have clustered : (ofMembers document).clustering?.isSome = true ↔
      ∃ fields, Clustered document fields := by
    simp only [Option.isSome_iff_exists, clustering?_eq_some_iff fits]
  have any : Partitioned document ↔
      (document.text? "bq_table_timepartitioning_field").isSome = true ∨
      (document.present? "bq_table_timepartitioning_expiration_ms").isSome = true ∨
      (document.flag? "bq_table_timepartitioning_require_partition_filter").isSome = true ∨
      (ofMembers document).clustering?.isSome = true := by
    rw [Partitioned, clustered, ← isSome_present?_iff, ← isSome_present?_iff,
      ← isSome_present?_iff, ← field, ← filter, Option.isSome_map, Option.isSome_map]
  have record : partitioning document
      (expirationValue (said document "bq_table_timepartitioning_expiration_ms")) = .object [
        ("expiration_ms", ((document.present? "bq_table_timepartitioning_expiration_ms").map
          expirationValue).getD .null),
        ("field", .ofText? (document.text? "bq_table_timepartitioning_field")),
        ("require_partition_filter",
          (document.flag? "bq_table_timepartitioning_require_partition_filter").elim
            .null .flag)] := by
    simp only [partitioning, said, ← field, ← filter, Value.ofText?]
    cases document.present? "bq_table_timepartitioning_expiration_ms" <;>
      cases document.text? "bq_table_timepartitioning_field" <;>
      cases document.flag? "bq_table_timepartitioning_require_partition_filter" <;> rfl
  rw [any, record, timePartitioning?, Option.ite_none_right_eq_some, Option.some.injEq,
    eq_comm (a := v)]
  rfl

/-- The arguments that are made of an accepted document are those that it asks for. -/
theorem asks_of_fits (fits : record.Fits document) :
    Asks document ((ofMembers document).clustering?.elim .null .texts)
      ((ofMembers document).timePartitioning?.getD .null) := by
  have clustered := clustered_clustering? fits
  cases made : (ofMembers document).timePartitioning? with
  | none =>
    have unpartitioned : ¬ Partitioned document := fun some => by
      cases made.symm.trans ((timePartitioning?_eq_some_iff fits).mpr ⟨some, rfl⟩)
    exact ⟨clustered, iff_of_false (by rintro ⟨_, ⟨⟩⟩) unpartitioned,
      iff_of_true rfl unpartitioned, by rintro _ ⟨⟩⟩
  | some v =>
    obtain ⟨some, rfl⟩ := (timePartitioning?_eq_some_iff fits).mp made
    exact ⟨clustered, iff_of_true ⟨_, rfl⟩ some, iff_of_false (by rintro ⟨⟩) (not_not_intro some),
      fun _ _ => ⟨_, expires_expirationValue _, rfl⟩⟩

variable {clusters partitions : Value}

/-- A clustered table is partitioned. -/
theorem Asks.record_of_clusters (h : Asks document clusters partitions)
    (there : clusters ≠ .null) : ∃ members, partitions = .object members := by
  refine h.record.mpr (.inr (.inr (.inr ?_)))
  rcases h.clustered with ⟨fields, clustered, _⟩ | ⟨null, _⟩
  · exact ⟨fields, clustered⟩
  · exact absurd null there

theorem ordered_said (ordered : Json.Ordered (.object document)) (key : String) :
    Json.Ordered (said document key) := by
  rw [said, Members.present?_eq_filter]
  cases found : (document.get? key).filter _ with
  | none => exact .null
  | some v =>
    have there := Members.mem_of_get? (Option.filter_eq_some_iff.mp found).1
    exact ordered.of_object.2 _ there

theorem Asks.ordered_clusters (h : Asks document clusters partitions) : Json.Ordered clusters := by
  rcases h.clustered with ⟨fields, _, rfl⟩ | ⟨rfl, _⟩
  · exact .list (List.forall_mem_map.mpr fun s _ => .text s)
  · exact .null

/-- The names in the record of a partitioning are in order. -/
theorem Asks.ordered_partitions (h : Asks document clusters partitions)
    (ordered : Json.Ordered (.object document)) : Json.Ordered partitions := by
  by_cases partitioned : Partitioned document
  · obtain ⟨members, there⟩ := h.record.mpr partitioned
    obtain ⟨expiration, expires, rfl⟩ := h.content members there
    have own : Json.Ordered expiration := by
      generalize hsaid : said document "bq_table_timepartitioning_expiration_ms" = v at expires
      cases expires with
      | integer => exact .number _
      | unchanged => exact hsaid ▸ ordered_said ordered _
    have names : ["expiration_ms", "field", "require_partition_filter"].Pairwise (· < ·) := by
      decide
    refine .object (List.pairwise_map.mp names) ?_
    simp only [List.forall_mem_cons, List.not_mem_nil, false_imp_iff, implies_true, and_true]
    exact ⟨own, ordered_said ordered _, ordered_said ordered _⟩
  · rw [h.nothing.mpr partitioned]
    exact .null

end Documents

end WorkflowCompiler.Workflow.TableLayout
