import WorkflowCompiler.Proofs.Publish.Agreement
import WorkflowCompiler.Proofs.Publish.Flow
import WorkflowCompiler.Proofs.Publish.Opaque

/-!
Where publications fail. Whatever may be wrong with a specification shows before the service or
the user is asked anything: once both scripts have been made, the envelope can be made as well, and
from then on a publication fails only where the service does, where no profile is chosen or where
nobody says whether an existing deployment may be replaced.
-/
namespace WorkflowCompiler.Publish

open Dialogue
open Script (Mode Build BuildError assemble)
open Workflow (Spec Task Settled)

namespace Dialogue

variable {σ α β : Type} {P : Failure → Prop}

def FailsOnly (P : Failure → Prop) (d : Dialogue σ α) : Prop :=
  ∀ c e, (run d c).1 = .error e → P e

theorem failsOnly_pure (a : α) : FailsOnly P (pure a : Dialogue σ α) := by
  intro c e h
  cases h

theorem failsOnly_throw {e : Failure} (h : P e) : FailsOnly P (throw e : Dialogue σ α) := by
  intro c e' thrown
  cases thrown
  exact h

theorem FailsOnly.bind {d : Dialogue σ α} {f : α → Dialogue σ β} (hd : FailsOnly P d)
    (hf : ∀ a, FailsOnly P (f a)) : FailsOnly P (d >>= f) := by
  intro c e h
  have first := hd c
  rw [run_bind] at h
  rcases ran : run d c with ⟨e' | a, c'⟩
  · rw [ran] at h first
    cases h
    exact first e rfl
  · rw [ran] at h
    exact hf a c' e h

theorem failsOnly_get : FailsOnly P (get : Dialogue σ (Course σ)) := by
  intro c e h
  cases h

theorem failsOnly_record (event : Event) : FailsOnly P (record event : Dialogue σ Unit) := by
  intro c e h
  cases h

section Prompts

variable (prompts : ∀ detail, P (.prompt detail))

include prompts

theorem failsOnly_say (text : String) : FailsOnly P (say text : Dialogue σ Unit) := by
  refine failsOnly_get.bind fun c => ?_
  cases c.console.statementFault with
  | some fault => exact failsOnly_throw (prompts fault)
  | none => exact failsOnly_record _

omit prompts in
theorem failsOnly_reply : FailsOnly P (reply : Dialogue σ Reply) := by
  refine failsOnly_get.bind fun c => ?_
  cases c.console.replies with
  | nil => exact failsOnly_pure _
  | cons r rest =>
    refine FailsOnly.bind (fun c e h => ?_) fun _ => failsOnly_pure _
    cases h

theorem failsOnly_ask (question : String) :
    FailsOnly P (ask question : Dialogue σ (Option String)) := by
  refine failsOnly_get.bind fun c => ?_
  -- what is left to do once it is known whether the question can be put
  extract_lets put
  have puts : ∀ u, FailsOnly P (put u) := by
    intro u
    refine (failsOnly_record _).bind fun _ => failsOnly_reply.bind fun r => ?_
    cases r with
    | line text => exact failsOnly_pure _
    | ended => exact failsOnly_pure _
    | broken detail => exact failsOnly_throw (prompts detail)
  cases c.console.questionFault with
  | none => exact puts ()
  | some fault =>
    by_cases h : question ≠ ""
    · simp only [if_pos h]
      exact (failsOnly_throw (prompts fault)).bind puts
    · simp only [if_neg h]
      exact puts ()

/-- By induction on the questions that may still be put. -/
theorem failsOnly_askUntil (question complaint : String) (decide : String → Option α)
    {ended : Failure} (last : P ended) (questions : Nat) :
    FailsOnly P (askUntil question complaint decide ended questions : Dialogue σ α) := by
  induction questions with
  | zero => exact failsOnly_throw last
  | succ questions ih =>
    refine (failsOnly_ask prompts question).bind fun answer => ?_
    cases answer with
    | none => exact failsOnly_throw last
    | some answer =>
      cases h : decide answer with
      | some a => simpa only [h] using failsOnly_pure a
      | none => simpa only [h] using (failsOnly_say prompts complaint).bind fun _ => ih

theorem failsOnly_askForDecision (question complaint : String) (decide : String → Option α)
    {ended : Failure} (last : P ended) :
    FailsOnly P (askForDecision question complaint decide ended : Dialogue σ α) :=
  failsOnly_get.bind fun _ => failsOnly_askUntil prompts question complaint decide last _

theorem failsOnly_forM_say (texts : List String) :
    FailsOnly P (texts.forM say : Dialogue σ PUnit) := by
  induction texts with
  | nil => exact failsOnly_pure _
  | cons text texts ih => exact (failsOnly_say prompts text).bind fun _ => ih

end Prompts

end Dialogue

def Options.request (options : Options) (build : Build) : Request where
  deployable := build.requested
  localScript := build.allLocal
  profile := options.profile
  user := options.user
  assumeYes := options.assumeYes

/-- The opaque texts of a submission hold the envelope and both scripts. -/
structure Encloses (s : Submission) (envelope : Envelope) (build : Build) : Prop where
  resource : Opaque.bytes s.resource = .ok (Text.encodeUtf8 envelope.toValue.toText)
  deployable : Opaque.decodeText s.deployable.data = .ok build.requested.source
  localScript : Opaque.decodeText s.localScript.data = .ok build.allLocal.source

theorem encloses_submission (options : Options) (build : Build) (envelope : Envelope)
    (profile : String) :
    Encloses ((options.request build).submission envelope profile) envelope build where
  resource := Opaque.bytes_encode envelope.toValue
  deployable := Opaque.decodeText_encode build.requested.source
  localScript := Opaque.decodeText_encode build.allLocal.source

section Failures

variable {σ : Type} {service : Service σ} {request : Request} {envelope : Envelope} {c : Course σ}

/-- Nobody says whether a deployment may be replaced, or nobody can be asked. -/
def Failure.Unconfirmed (deployment : String) (e : Failure) : Prop :=
  e = .conflict deployment ∨ ∃ detail, e = .prompt detail

def Failure.Unchosen (profiles : List String) (e : Failure) : Prop :=
  (profiles = [] ∧ e = .settings "no project profile is available for this user") ∨
    ∃ detail, e = .prompt detail

/-- Where a publication can fail that has its scripts and its envelope: the service fails at one of
the requests to it, or the user does not come to a decision. -/
inductive FailsIn (service : Service σ) (request : Request) (envelope : Envelope) (c : Course σ) :
    Failure → Prop
  | listing {e : Failure} : request.statedProfile = none →
      (service.profiles request.user c.service).1 = .error e →
      FailsIn service request envelope c e
  | choice {profiles : List String} {e : Failure} : request.statedProfile = none →
      (service.profiles request.user c.service).1 = .ok profiles → e.Unchosen profiles →
      FailsIn service request envelope c e
  | check {profile : String} {c₁ : Course σ} {e : Failure} :
      run (obtainProfile service request) c = (.ok profile, c₁) →
      (service.check (request.inquiry profile) c₁.service).1 = .error e →
      FailsIn service request envelope c e
  | overwrite {profile message : String} {c₁ : Course σ} {e : Failure} :
      run (obtainProfile service request) c = (.ok profile, c₁) →
      (service.check (request.inquiry profile) c₁.service).1 = .ok (.present message) →
      request.assumeYes = false → e.Unconfirmed request.deployable.deploymentName →
      FailsIn service request envelope c e
  | submission {profile : String} {c₁ c₂ : Course σ} {e : Failure} :
      run (obtainProfile service request) c = (.ok profile, c₁) →
      run (permission service request profile) c₁ = (.ok true, c₂) →
      (service.submit (request.submission envelope profile) c₂.service).1 = .error e →
      FailsIn service request envelope c e

theorem failsOnly_confirmOverwrite (deployment : String) :
    FailsOnly (Failure.Unconfirmed deployment) (confirmOverwrite deployment : Dialogue σ Bool) :=
  failsOnly_askForDecision (fun detail => .inr ⟨detail, rfl⟩) _ _ _ (.inl rfl)

theorem failsOnly_chooseProfile (profiles : List String) :
    FailsOnly (Failure.Unchosen profiles) (chooseProfile profiles : Dialogue σ String) := by
  have prompts : ∀ detail, Failure.Unchosen profiles (.prompt detail) :=
    fun detail => .inr ⟨detail, rfl⟩
  have choosing : FailsOnly (Failure.Unchosen profiles) (do
      say "Available project profiles:"
      (numbered (sortedTexts profiles)).forM say
      askForDecision
        ("Select a project profile (1-" ++ toString (sortedTexts profiles).length ++ "): ")
        "Invalid selection." (choice? (sortedTexts profiles))
        (.prompt "input ended before a project profile was selected") : Dialogue σ String) :=
    (failsOnly_say prompts _).bind fun _ => (failsOnly_forM_say prompts _).bind fun _ =>
      failsOnly_askForDecision prompts _ _ _ (prompts _)
  rw [chooseProfile]
  by_cases h : profiles = []
  · simp only [if_pos h]
    exact (failsOnly_throw (.inl ⟨h, rfl⟩)).bind fun _ => choosing
  · simp only [if_neg h]
    exact choosing

theorem failsIn_of_obtainProfile {e : Failure} {c₁ : Course σ}
    (h : run (obtainProfile service request) c = (.error e, c₁)) :
    FailsIn service request envelope c e := by
  rw [obtainProfile] at h
  cases stated : request.statedProfile with
  | some profile =>
    rw [stated] at h
    cases h
  | none =>
    rw [stated] at h
    simp only [run_bind, run_call] at h
    cases listed : (service.profiles request.user c.service).1 with
    | error e' =>
      rw [listed] at h
      cases h
      exact .listing stated listed
    | ok profiles =>
      rw [listed] at h
      exact .choice stated listed (failsOnly_chooseProfile profiles _ e (congrArg Prod.fst h))

theorem failsIn_of_permission {e : Failure} {profile : String} {c₁ c₂ : Course σ}
    (obtained : run (obtainProfile service request) c = (.ok profile, c₁))
    (h : run (permission service request profile) c₁ = (.error e, c₂)) :
    FailsIn service request envelope c e := by
  rw [run_permission, run_call] at h
  cases checked : (service.check (request.inquiry profile) c₁.service).1 with
  | error e' =>
    rw [checked] at h
    cases h
    exact .check obtained checked
  | ok existence =>
    rw [checked] at h
    cases existence with
    | absent => cases h
    | present message =>
      cases careful : request.assumeYes with
      | true => simp [careful] at h
      | false =>
        simp only [careful, Bool.false_eq_true, if_false] at h
        exact .overwrite obtained checked careful
          (failsOnly_confirmOverwrite _ _ e (congrArg Prod.fst h))

/-- A publication that is permitted asks the service to install what has been made. -/
theorem run_publishArtifacts_of_permitted {files : Files.Tree} {profile : String}
    {c₁ c₂ : Course σ} (made : Envelope.ofSpec files request.deployable.spec = .ok envelope)
    (obtained : run (obtainProfile service request) c = (.ok profile, c₁))
    (permitted : run (permission service request profile) c₁ = (.ok true, c₂)) :
    let submission := request.submission envelope profile
    let answered := service.submit submission c₂.service
    run (publishArtifacts files service request) c = (answered.1.map .published,
      { c₂ with service := answered.2, events := c₂.events ++ [.submitted submission] }) := by
  intro submission answered
  simp only [run_publishArtifacts, obtained, permitted, made, run_call]
  rfl

/-- A publication that has its scripts and its envelope fails where the service or the user do. -/
theorem failsIn_of_publishArtifacts {files : Files.Tree} {e : Failure}
    (made : Envelope.ofSpec files request.deployable.spec = .ok envelope)
    (h : (run (publishArtifacts files service request) c).1 = .error e) :
    FailsIn service request envelope c e := by
  rcases obtained : run (obtainProfile service request) c with ⟨e' | profile, c₁⟩
  · rw [run_publishArtifacts, obtained] at h
    cases h
    exact failsIn_of_obtainProfile obtained
  rcases permitted : run (permission service request profile) c₁ with ⟨e' | allowed, c₂⟩
  · simp only [run_publishArtifacts, obtained, permitted] at h
    cases h
    exact failsIn_of_permission obtained permitted
  cases allowed with
  | false =>
    simp only [run_publishArtifacts, obtained, permitted] at h
    cases h
  | true =>
    rw [run_publishArtifacts_of_permitted made obtained permitted] at h
    cases sent : (service.submit (request.submission envelope profile) c₂.service).1 with
    | error e' =>
      simp only [sent] at h
      cases h
      exact .submission obtained permitted sent
    | ok message =>
      simp only [sent] at h
      cases h

def Failure.isMaking : Failure → Bool
  | .build _ => true
  | .encoding _ => true
  | _ => false

/-- Every failure that the service answers with has a property. -/
structure Service.FailsOnly (P : Failure → Prop) (service : Service σ) : Prop where
  profiles : ∀ user state e, (service.profiles user state).1 = .error e → P e
  check : ∀ inquiry state e, (service.check inquiry state).1 = .error e → P e
  submit : ∀ submission state e, (service.submit submission state).1 = .error e → P e

/-- Only the service itself could answer that something cannot be made. -/
theorem FailsIn.isMaking_eq_false {e : Failure} (h : FailsIn service request envelope c e)
    (foreign : service.FailsOnly fun e => e.isMaking = false) : e.isMaking = false := by
  cases h with
  | listing _ failed => exact foreign.profiles _ _ e failed
  | choice _ _ unchosen =>
    rcases unchosen with ⟨_, rfl⟩ | ⟨detail, rfl⟩
    · rfl
    · rfl
  | check _ failed => exact foreign.check _ _ e failed
  | overwrite _ _ _ unconfirmed =>
    rcases unconfirmed with rfl | ⟨detail, rfl⟩
    · rfl
    · rfl
  | submission _ _ failed => exact foreign.submit _ _ e failed

end Failures

section Making

variable {files : Files.Tree} {spec : Spec} {graph : Workflow.Dependency.Graph} {path : String}
  {build : Build}

/-- The queries that have been compiled can be read once more. -/
theorem exists_sqlOf {mode : Mode} {subset : List String} {a : Script.Artifact}
    (h : assemble files spec mode subset = .ok a) (whole : mode = .deployable ∨ subset = []) :
    ∀ task ∈ spec.tasks, ∃ sql, TaskEntry.sqlOf files spec task = .ok sql := by
  intro task htask
  by_cases query : task.kind = .query
  · obtain ⟨tasks, compiled, _, _, made⟩ := Script.assembled_of_assemble h
    have selects : Script.selectTasks spec mode subset = .ok spec.tasks := if_pos whole
    obtain rfl := Except.ok.inj (selects.symm.trans made.selects)
    obtain ⟨_, _, compiledTask⟩ := exists_mem_of_forall₂ made.compiles.flip task htask
    obtain ⟨_, p, sql, _, _, code⟩ := Script.queryCode_of_compileTask query compiledTask
    exact ⟨_, sqlOf_query query code.parameters (Workflow.readText_eq_ok_iff.mp code.read)⟩
  · exact ⟨none, if_neg query⟩

/-- Once both scripts have been made, so can be the envelope. -/
theorem exists_envelope_of_build (h : Script.build files path .deployable [] = .ok build) :
    ∃ envelope, Envelope.ofSpec files build.requested.spec = .ok envelope := by
  obtain ⟨spec, hload, built⟩ := bind_eq_ok_iff.mp h
  rw [Script.loadSpec] at hload
  cases accepted : Workflow.load files path with
  | error rejection =>
    rw [accepted] at hload
    cases hload
  | ok loaded =>
    rw [accepted] at hload
    cases hload
    have settled := Workflow.settled_of_load accepted
    have deployable := (assembled_of_buildLoaded built).2
    obtain ⟨envelope, _, made, _⟩ :=
      exists_envelope settled deployable (exists_sqlOf deployable (.inl rfl))
    exact ⟨envelope, made⟩

end Making

/-- What is wrong with a specification ends its publication before anything is asked of the service
or the user. If nothing is, then the envelope can be made and, with both scripts, encoded; the
publication fails only where the service does or the user does not decide, and sends what has been
made as soon as it may. -/
theorem publish_fails_before_or_outside {σ : Type} (files : Files.Tree) (path : String)
    (service : Service σ) (options : Options) (c : Course σ) :
    let final := run (publish files path service options) c
    (∃ e, Script.build files path .deployable [] = .error e ∧ final = (.error (.build e), c)) ∨
    ∃ build envelope, Script.build files path .deployable [] = .ok build ∧
      Envelope.ofSpec files build.requested.spec = .ok envelope ∧
      let request := options.request build
      (∀ profile, Encloses (request.submission envelope profile) envelope build) ∧
      (∀ e, final.1 = .error e → FailsIn service request envelope c e) ∧
      (service.FailsOnly (fun e => e.isMaking = false) →
        ∀ e, final.1 = .error e → e.isMaking = false) ∧
      ∀ profile c₁ c₂, run (obtainProfile service request) c = (.ok profile, c₁) →
        run (permission service request profile) c₁ = (.ok true, c₂) →
        .submitted (request.submission envelope profile) ∈ final.2.events := by
  intro final
  cases built : Script.build files path .deployable [] with
  | error e =>
    refine .inl ⟨e, rfl, ?_⟩
    simp only [final, publish, built, run_throw]
  | ok build =>
    obtain ⟨envelope, made⟩ : ∃ envelope,
        Envelope.ofSpec files (options.request build).deployable.spec = .ok envelope :=
      exists_envelope_of_build built
    have same : final = run (publishArtifacts files service (options.request build)) c := by
      simp only [final, publish, built]
      rfl
    have blamed : ∀ e, final.1 = .error e →
        FailsIn service (options.request build) envelope c e := by
      intro e h
      rw [same] at h
      exact failsIn_of_publishArtifacts made h
    refine .inr ⟨build, envelope, rfl, made, fun profile => ?_, blamed,
      fun foreign e h => (blamed e h).isMaking_eq_false foreign, ?_⟩
    · exact encloses_submission options build envelope profile
    · intro profile c₁ c₂ obtained permitted
      rw [same, run_publishArtifacts_of_permitted made obtained permitted]
      exact List.mem_append_right _ List.mem_cons_self

end WorkflowCompiler.Publish
