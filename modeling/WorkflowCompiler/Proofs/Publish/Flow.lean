import WorkflowCompiler.Proofs.Publish.Dialogue

/-!
The course of a publication: which requests it makes, and in which order. The talk about the
profile and the one about an existing deployment are quiet, so the requests are a listing where no
profile is stated, one check for the profile, and one submission if the check and the user allow
it and the envelope can be made.
-/
namespace WorkflowCompiler.Publish

open Dialogue

variable {σ : Type} (files : Files.Tree) (service : Service σ) (request : Request)

def Request.listing : List Event :=
  if request.profile.all fun profile => Text.trim profile = "" then
    [.profilesListed request.user]
  else []

def Request.inquiry (profile : String) : Inquiry :=
  ⟨request.deployable.fileName, profile⟩

theorem Request.listing_eq :
    request.listing = match request.statedProfile with
      | some _ => []
      | none => [.profilesListed request.user] := by
  rw [listing, statedProfile]
  cases request.profile with
  | none => rfl
  | some profile =>
    by_cases blank : Text.trim profile = ""
    · simp [blank, Option.filter]
    · simp [blank, Option.filter]

theorem quiet_confirmOverwrite (deployment : String) :
    Quiet (confirmOverwrite deployment : Dialogue σ Bool) :=
  quiet_askForDecision _ _ _ _

theorem quiet_chooseProfile (profiles : List String) :
    Quiet (chooseProfile profiles : Dialogue σ String) := by
  have choosing : Quiet (do
      say "Available project profiles:"
      (numbered (sortedTexts profiles)).forM say
      askForDecision
        ("Select a project profile (1-" ++ toString (sortedTexts profiles).length ++ "): ")
        "Invalid selection." (choice? (sortedTexts profiles))
        (.prompt "input ended before a project profile was selected") : Dialogue σ String) :=
    (quiet_say _).bind fun _ => (quiet_forM_say _).bind fun _ => quiet_askForDecision _ _ _ _
  rw [chooseProfile]
  by_cases h : profiles = []
  · simp only [if_pos h]
    exact (quiet_throw _).bind fun _ => choosing
  · simp only [if_neg h]
    exact choosing

theorem calls_call (e : Event) (act : σ → Except Failure α × σ) (c : Course σ)
    (seen : e.isCall = true) : (run (call e act) c).2.calls = c.calls ++ [e] := by
  simp [run_call, Course.calls, seen]

theorem calls_obtainProfile (c : Course σ) :
    (run (obtainProfile service request) c).2.calls = c.calls ++ request.listing := by
  rw [obtainProfile, Request.listing_eq]
  cases request.statedProfile with
  | some profile => exact (List.append_nil _).symm
  | none =>
    have listed := calls_call (.profilesListed request.user) (service.profiles request.user) c rfl
    simp only [run_bind]
    rcases h : run (call (.profilesListed request.user) (service.profiles request.user)) c
      with ⟨e | profiles, c'⟩
    · rwa [h] at listed
    · rw [h] at listed
      exact (quiet_chooseProfile profiles c').2.trans listed

theorem run_permission (profile : String) (c : Course σ) :
    run (permission service request profile) c =
      match run (call (.checked (request.inquiry profile))
        (service.check (request.inquiry profile))) c with
      | (.error e, c') => (.error e, c')
      | (.ok .absent, c') => (.ok true, c')
      | (.ok (.present _), c') =>
        if request.assumeYes then (.ok true, c')
        else run (confirmOverwrite request.deployable.deploymentName) c' := by
  rw [permission, run_bind, Request.inquiry]
  rcases run (call _ _) c with ⟨e | existence, c'⟩
  · rfl
  cases existence with
  | absent => rfl
  | present message => cases request.assumeYes <;> rfl

theorem calls_permission (profile : String) (c : Course σ) :
    (run (permission service request profile) c).2.calls =
      c.calls ++ [.checked (request.inquiry profile)] := by
  have checked := calls_call (.checked (request.inquiry profile))
    (service.check (request.inquiry profile)) c rfl
  rw [run_permission]
  rcases h : run (call (.checked (request.inquiry profile))
    (service.check (request.inquiry profile))) c with ⟨e | existence, c'⟩
  · rwa [h] at checked
  · rw [h] at checked
    cases existence with
    | absent => exact checked
    | present message =>
      cases request.assumeYes with
      | true => exact checked
      | false => exact (quiet_confirmOverwrite _ c').2.trans checked

/-- A publication as its parts one after the other. -/
theorem run_publishArtifacts (c : Course σ) :
    run (publishArtifacts files service request) c =
      match run (obtainProfile service request) c with
      | (.error e, c₁) => (.error e, c₁)
      | (.ok profile, c₁) =>
        match run (permission service request profile) c₁ with
        | (.error e, c₂) => (.error e, c₂)
        | (.ok false, c₂) => (.ok .declined, c₂)
        | (.ok true, c₂) =>
          match Envelope.ofSpec files request.deployable.spec with
          | .error e => (.error (.build e), c₂)
          | .ok envelope =>
            let submission := request.submission envelope profile
            let sent := run (call (.submitted submission) (service.submit submission)) c₂
            (sent.1.map .published, sent.2) := by
  rw [publishArtifacts, run_bind]
  rcases run (obtainProfile service request) c with ⟨e | profile, c₁⟩
  · rfl
  simp only [run_bind]
  rcases run (permission service request profile) c₁ with ⟨e | allowed, c₂⟩
  · rfl
  cases allowed with
  | false => rfl
  | true =>
    cases Envelope.ofSpec files request.deployable.spec with
    | error e => rfl
    | ok envelope =>
      simp only [if_true, run_bind]
      rcases run (call (.submitted (request.submission envelope profile)) _) c₂
        with ⟨e | message, c₃⟩
      · rfl
      · rfl

/-- A service with one profile, at which every deployment exists. -/
def Service.occupied : Service Unit where
  profiles _ state := (.ok ["p"], state)
  check _ state := (.ok (.present "it exists"), state)
  submit _ state := (.ok "replaced", state)

/-- A request that states no profile, for a workflow without tasks. -/
def Request.plain : Request where
  deployable := ⟨.deployable, "w_PROD", "print(\"deployed\")\n", Workflow.Spec.ofMembers []⟩
  localScript := ⟨.standalone, "w_PROD", "print(\"local\")\n", Workflow.Spec.ofMembers []⟩
  profile := none
  user := "u"
  assumeYes := false

end WorkflowCompiler.Publish
