import WorkflowCompiler.Proofs.Publish.Flow
import WorkflowCompiler.Proofs.Publish.Opaque
import WorkflowCompiler.Proofs.Success

/-!
What arrives at the service. Everything that a publication submits is the submission of its
request, so the service gets both scripts and the envelope out of the opaque texts again.
-/
namespace WorkflowCompiler.Publish

open Dialogue
open Json (Value Members Portable)

variable {σ : Type} {files : Files.Tree} {service : Service σ} {request : Request}

theorem Course.mem_calls {c : Course σ} {e : Event} :
    e ∈ c.calls ↔ e ∈ c.events ∧ e.isCall = true :=
  List.mem_filter

theorem Request.not_mem_listing (request : Request) (s : Submission) :
    Event.submitted s ∉ request.listing := by
  rw [Request.listing_eq]
  cases request.statedProfile <;> simp

/-- Only the submission of the request for some profile is ever submitted, with the envelope of
the deployable script's specification. -/
theorem submission_eq {c : Course σ} {s : Submission} (unsent : .submitted s ∉ c.events)
    (sent : .submitted s ∈ (run (publishArtifacts files service request) c).2.events) :
    ∃ profile envelope, Envelope.ofSpec files request.deployable.spec = .ok envelope ∧
      s = request.submission envelope profile := by
  replace unsent : .submitted s ∉ c.calls := fun h => unsent (Course.mem_calls.mp h).1
  replace sent := Course.mem_calls.mpr ⟨sent, rfl⟩
  have selected := calls_obtainProfile service request c
  rw [run_publishArtifacts] at sent
  rcases hp : run (obtainProfile service request) c with ⟨e | profile, c₁⟩
  · rw [hp] at sent selected
    rw [selected, List.mem_append] at sent
    exact absurd sent (not_or.mpr ⟨unsent, request.not_mem_listing s⟩)
  rw [hp] at sent selected
  have before : .submitted s ∉ c₁.calls := by
    rw [selected, List.mem_append]
    exact not_or.mpr ⟨unsent, request.not_mem_listing s⟩
  have checked := calls_permission service request profile c₁
  rcases ha : run (permission service request profile) c₁ with ⟨e | allowed, c₂⟩
  · simp only [ha] at sent checked
    simp [checked, before] at sent
  simp only [ha] at sent checked
  have between : .submitted s ∉ c₂.calls := by simp [checked, before]
  cases allowed with
  | false => exact absurd sent between
  | true =>
    cases he : Envelope.ofSpec files request.deployable.spec with
    | error e =>
      rw [he] at sent
      exact absurd sent between
    | ok envelope =>
      simp only [he] at sent
      rw [calls_call _ _ _ rfl, List.mem_append, List.mem_singleton] at sent
      exact ⟨profile, envelope, rfl, Event.submitted.inj (sent.resolve_left between)⟩

section Configuration

variable {depth : Nat} {own : List (String × Option Value)} {extra : Members}

/-- Fields that are there and further members are put together under their keys. -/
theorem portable_fields (fields : ∀ f ∈ own, ∀ v ∈ f.2, Portable depth v)
    (others : ∀ m ∈ extra, Portable depth m.2) : Portable (depth + 1)
      (.object (Members.ofList ((own.filterMap fun m => m.2.map (m.1, ·)) ++ extra))) := by
  obtain ⟨sorted, origin⟩ :=
    Members.ofList_spec ((own.filterMap fun m => m.2.map (m.1, ·)) ++ extra)
  refine .object sorted fun m hm => ?_
  rcases List.mem_append.mp (origin m hm) with hown | hextra
  · obtain ⟨f, hf, value⟩ := List.mem_filterMap.mp hown
    obtain ⟨v, present, rfl⟩ := Option.map_eq_some_iff.mp value
    exact fields f hf v present
  · exact others m hextra

theorem portable_some {v : Value} (h : Portable depth v) : ∀ w ∈ some v, Portable depth w := by
  rintro _ ⟨⟩
  exact h

theorem portable_text? (s? : Option String) : ∀ v ∈ s?.map Value.text, Portable depth v := by
  intro v hv
  obtain ⟨s, _, rfl⟩ := Option.map_eq_some_iff.mp hv
  exact .text s

theorem portable_flag? (b? : Option Bool) : ∀ v ∈ b?.map Value.flag, Portable depth v := by
  intro v hv
  obtain ⟨b, _, rfl⟩ := Option.map_eq_some_iff.mp hv
  exact .flag b

theorem portable_ofNat {n : Nat} (small : n < 2 ^ 64) : Portable depth (.ofNat n) :=
  .integer ⟨by omega, by exact_mod_cast small⟩

theorem portable_texts (texts : List String) : Portable (depth + 1) (.texts texts) := by
  refine .list fun v hv => ?_
  obtain ⟨s, _, rfl⟩ := List.mem_map.mp hv
  exact .text s

theorem portable_task {task : Workflow.Task}
    (parameters : ∀ m ∈ task.parameters, Portable depth m.2) :
    Portable (depth + 1) task.toValue := by
  refine portable_fields ?_ parameters
  simp only [List.forall_mem_cons, List.not_mem_nil, false_imp_iff, implies_true, and_true]
  exact ⟨portable_some (.text _), portable_text? _, portable_text? _, portable_text? _,
    portable_text? _, portable_text? _, portable_text? _, portable_flag? _⟩

/-- The document of a specification nests three levels more than the parameters of its tasks. -/
theorem portable_spec {spec : Workflow.Spec} (runs : spec.maxActiveRuns < 2 ^ 64)
    (concurrency : spec.taskConcurrency < 2 ^ 64)
    (parameters : ∀ task ∈ spec.tasks, ∀ m ∈ task.parameters, Portable depth m.2)
    (account : ∀ v ∈ spec.account, Portable (depth + 2) v)
    (others : ∀ m ∈ spec.extra, Portable (depth + 2) m.2) :
    Portable (depth + 3) spec.toValue := by
  have workflow : Portable (depth + 2) (.list (spec.tasks.map Workflow.Task.toValue)) := by
    refine .list fun v hv => ?_
    obtain ⟨task, htask, rfl⟩ := List.mem_map.mp hv
    exact portable_task (parameters task htask)
  refine portable_fields ?_ others
  simp only [List.forall_mem_cons, List.not_mem_nil, false_imp_iff, implies_true, and_true]
  exact ⟨portable_some (.text _), portable_some (.text _), portable_some (.text _),
    portable_some (.text _), portable_some (portable_ofNat runs),
    portable_some (portable_ofNat concurrency), portable_some (.flag _), portable_some (.text _),
    portable_text? _, portable_some (.text _), portable_some (.text _), portable_some (.text _),
    portable_some (portable_texts _), portable_some workflow, account⟩

end Configuration

namespace Envelope

theorem texts_textsOf (part : TaskEntry → Option String) (entries : List TaskEntry) :
    Texts (textsOf part entries) := by
  obtain ⟨sorted, origin⟩ := Members.ofList_spec
    (entries.filterMap fun e => (part e).map fun s => (e.task.id, Value.text s))
  refine ⟨sorted, fun m hm => ?_⟩
  obtain ⟨entry, _, htext⟩ := List.mem_filterMap.mp (origin m hm)
  obtain ⟨s, _, rfl⟩ := Option.map_eq_some_iff.mp htext
  exact ⟨s, rfl⟩

theorem sendable_ofSpec {spec : Workflow.Spec} {e : Envelope} (made : ofSpec files spec = .ok e)
    (account : Portable 126 e.account) (configuration : Portable 126 e.configuration) :
    e.Sendable := by
  rw [ofSpec, bind_eq_ok_iff] at made
  obtain ⟨entries, _, made⟩ := made
  cases made
  exact ⟨texts_textsOf _ _, texts_textsOf _ _, texts_textsOf _ _, account, configuration⟩

end Envelope

/-- Opaque data loses nothing: texts, values and envelopes are read back as they were, and from
every submission both scripts and the envelope of the deployable script. -/
theorem opaque_lossless :
    (∀ s, Opaque.decodeText (Opaque.encode (.text s)) = .ok s) ∧
    (∀ v, Portable 127 v → Opaque.decode .any (Opaque.encode v) = .ok v) ∧
    (∀ e : Envelope, e.Sendable → Envelope.decode (Opaque.encode e.toValue) = .ok e) ∧
    ∀ (σ : Type) (files : Files.Tree) (service : Service σ) (request : Request) (state : σ)
      (console : Console) (s : Submission),
      .submitted s ∈ (run (publishArtifacts files service request) ⟨state, console, []⟩).2.events →
      Opaque.decodeText s.deployable.data = .ok request.deployable.source ∧
      Opaque.decodeText s.localScript.data = .ok request.localScript.source ∧
      ∃ e, Envelope.ofSpec files request.deployable.spec = .ok e ∧
        (Portable 126 e.account → Portable 126 e.configuration →
          Envelope.decode s.resource = .ok e) := by
  refine ⟨Opaque.decodeText_encode, fun v => Opaque.decode_any_encode,
    fun e sendable => sendable.decode_encode, ?_⟩
  intro σ files service request state console s sent
  obtain ⟨profile, e, made, rfl⟩ := submission_eq List.not_mem_nil sent
  exact ⟨Opaque.decodeText_encode _, Opaque.decodeText_encode _, e, made,
    fun account configuration => (Envelope.sendable_ofSpec made account configuration).decode_encode⟩

/-- A nested value with a control character in it, and a submission of both scripts. -/
theorem opaque_lossless_sample :
    let v : Value := .object [("k", .list [.number (.integer (-9)), .text "\n\u0001é"])]
    let request := { Request.plain with profile := some " p ", assumeYes := true }
    Opaque.decode .any (Opaque.encode v) = .ok v ∧
    ∃ s e, .submitted s ∈ (run (publishArtifacts ⟨[], []⟩ Service.occupied request)
        ⟨(), .answering [], []⟩).2.events ∧
      Opaque.decodeText s.deployable.data = .ok "print(\"deployed\")\n" ∧
      Opaque.decodeText s.localScript.data = .ok "print(\"local\")\n" ∧
      Envelope.ofSpec ⟨[], []⟩ request.deployable.spec = .ok e ∧
      Envelope.decode s.resource = .ok e := by
  intro v request
  obtain ⟨-, values, -, submissions⟩ := opaque_lossless
  have portable : Portable 127 v := by
    refine .object (List.pairwise_singleton _ _) fun m hm => ?_
    rw [List.mem_singleton.mp hm]
    refine .list fun w hw => ?_
    rcases List.mem_pair.mp hw with rfl | rfl
    · exact .integer ⟨by decide, by decide⟩
    · exact .text _
  refine ⟨values v portable, ?_⟩
  obtain ⟨e, made, sent⟩ : ∃ e, Envelope.ofSpec ⟨[], []⟩ request.deployable.spec = .ok e ∧
      Event.submitted (request.submission e "p") ∈ (run (publishArtifacts ⟨[], []⟩ Service.occupied
        request) ⟨(), .answering [], []⟩).2.events :=
    ⟨_, rfl, List.mem_cons_of_mem _ List.mem_cons_self⟩
  obtain ⟨deployed, ran, e', made', received⟩ := submissions _ _ _ _ _ _ _ sent
  cases made.symm.trans made'
  cases made
  refine ⟨_, _, sent, deployed, ran, rfl, received .null ?_⟩
  exact portable_spec (by decide) (by decide) (by simp) (by rintro _ ⟨⟩) (by rintro _ ⟨⟩)

end WorkflowCompiler.Publish
