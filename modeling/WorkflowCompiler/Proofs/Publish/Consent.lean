import WorkflowCompiler.Proofs.Publish.Flow

/-!
Consent to a publication. What a user with answers gets asked ends in the profile that their first
valid choice names, and in the verdict that their first decisive answer gives on an existing
deployment. A publication submits at most once, and only after such a verdict or none was needed.
-/
namespace WorkflowCompiler.Publish

open Dialogue

variable {σ : Type} {files : Files.Tree} {service : Service σ} {request : Request}
  {answers left : List String} {c : Course σ}

def agrees (answer : String) : Bool :=
  Text.lowerAscii (Text.trim answer) ∈ ["y", "yes"]

def isDecisive (answer : String) : Bool :=
  Text.lowerAscii (Text.trim answer) ∈ ["y", "yes", "n", "no"]

theorem yesOrNo?_eq (answer : String) :
    yesOrNo? answer = if isDecisive answer then some (agrees answer) else none := by
  rw [yesOrNo?, isDecisive, agrees]
  generalize Text.lowerAscii (Text.trim answer) = word
  split
  · rfl
  · rfl
  · rfl
  · rfl
  · next y yes n no =>
    have undecided : ¬ word ∈ ["y", "yes", "n", "no"] := by
      simp only [List.mem_cons, List.not_mem_nil, or_false, not_or]
      exact ⟨y, yes, n, no⟩
    rw [decide_eq_false undecided]
    rfl

theorem firstDecision_yesOrNo? (answers : List String) :
    (firstDecision yesOrNo? answers).map (·.1) = (answers.find? isDecisive).map agrees := by
  induction answers with
  | nil => rfl
  | cons answer answers ih =>
    simp only [firstDecision, yesOrNo?_eq]
    by_cases decisive : isDecisive answer = true
    · simp only [if_pos decisive, List.find?_cons_of_pos decisive, Option.map_some]
    · simp only [if_neg decisive, List.find?_cons_of_neg decisive]
      exact ih

theorem firstDecision_choice?_nil (answers : List String) :
    firstDecision (choice? []) answers = none := by
  induction answers with
  | nil => rfl
  | cons answer answers ih =>
    have invalid : choice? [] answer = none := by
      rw [choice?]
      split <;> rfl
    rw [firstDecision, invalid]
    exact ih

/-- A profile is obtained with the request, or by the first of the answers that chooses one of
those the service lists. Known are then the service after that and the answers that are left. -/
inductive Obtained (service : Service σ) (request : Request) (state : σ)
    (answers : List String) : String → σ → List String → Prop
  | stated {text : String} : request.profile = some text → Text.trim text ≠ "" →
      Obtained service request state answers (Text.trim text) state answers
  | chosen {profiles : List String} {known : σ} {profile : String} {left : List String} :
      (∀ text, request.profile = some text → Text.trim text = "") →
      service.profiles request.user state = (.ok profiles, known) →
      firstDecision (choice? (sortedTexts profiles)) answers = some (profile, left) →
      Obtained service request state answers profile known left

theorem statedProfile_eq_some_iff {profile : String} : request.statedProfile = some profile ↔
    ∃ text, request.profile = some text ∧ Text.trim text ≠ "" ∧ Text.trim text = profile := by
  rw [Request.statedProfile, Option.filter_eq_some_iff]
  constructor
  · rintro ⟨present, said⟩
    obtain ⟨text, stated, rfl⟩ := Option.map_eq_some_iff.mp present
    exact ⟨text, stated, by simpa using said, rfl⟩
  · rintro ⟨text, stated, said, rfl⟩
    exact ⟨Option.map_eq_some_iff.mpr ⟨text, stated, rfl⟩, by simpa using said⟩

theorem statedProfile_eq_none_iff : request.statedProfile = none ↔
    ∀ text, request.profile = some text → Text.trim text = "" := by
  simp [Request.statedProfile, Option.filter_eq_none_iff]

def offer (sorted : List String) : List Event :=
  .said "Available project profiles:" :: (numbered sorted).map .said

/-- How the choice among so many profiles is asked for. -/
def selectionQuestion (count : Nat) : String :=
  "Select a project profile (1-" ++ toString count ++ "): "

def unselected : Failure :=
  .prompt "input ended before a project profile was selected"

/-- The talk about the profile ends in the first valid choice. -/
theorem run_chooseProfile (h : c.console = .answering answers) {profiles : List String}
    (some : profiles ≠ []) :
    let sorted := sortedTexts profiles
    run (chooseProfile profiles) c =
      ((outcome (choice? sorted) unselected answers).1, { c with
        console := .answering (outcome (choice? sorted) unselected answers).2
        events := c.events ++ offer sorted ++
          asking (selectionQuestion sorted.length) "Invalid selection."
            (answers.findIdx fun answer => (choice? sorted answer).isSome) }) := by
  intro sorted
  have told := run_say (heard_of_answering h) "Available project profiles:"
  have items := run_forM_say
    (c := { c with events := c.events ++ [.said "Available project profiles:"] })
    (heard_of_answering h) (numbered (sortedTexts profiles))
  have decided := run_askForDecision
    (c := { c with
      events := c.events ++ [.said "Available project profiles:"] ++ (numbered sorted).map .said })
    h (selectionQuestion sorted.length) "Invalid selection." (choice? sorted) unselected
  simp only [chooseProfile, if_neg some, run_bind, told, items]
  refine decided.trans ?_
  simp only [offer, List.append_assoc, List.cons_append, List.nil_append]

/-- The talk about the profile fails without a valid choice. -/
theorem exists_run_chooseProfile (h : c.console = .answering answers) (profiles : List String) :
    match firstDecision (choice? (sortedTexts profiles)) answers with
    | some (profile, left) => ∃ events, run (chooseProfile profiles) c =
        (.ok profile, { c with console := .answering left, events })
    | none => ∃ e c', run (chooseProfile profiles) c = (.error e, c') := by
  by_cases empty : profiles = []
  · subst empty
    have sorted : sortedTexts [] = [] := by simp [sortedTexts]
    rw [sorted, firstDecision_choice?_nil]
    exact ⟨_, c, by rw [chooseProfile, if_pos rfl, run_bind, run_throw]⟩
  · have talk := run_chooseProfile h empty
    cases decided : firstDecision (choice? (sortedTexts profiles)) answers with
    | some choice =>
      simp only [outcome, decided] at talk
      exact ⟨_, talk⟩
    | none =>
      simp only [outcome, decided] at talk
      exact ⟨_, _, talk⟩

/-- A profile that is obtained is the one that the publication goes on with. -/
theorem Obtained.run_eq {profile : String} {known : σ} (h : c.console = .answering answers)
    (obtained : Obtained service request c.service answers profile known left) :
    ∃ events, run (obtainProfile service request) c =
      (.ok profile, ⟨known, .answering left, events⟩) := by
  rw [obtainProfile]
  cases obtained with
  | stated present said =>
    rw [statedProfile_eq_some_iff.mpr ⟨_, present, said, rfl⟩]
    exact ⟨c.events, by rw [← h, run_pure]⟩
  | chosen unstated listed decided =>
    rw [statedProfile_eq_none_iff.mpr unstated]
    have choosing := exists_run_chooseProfile (c := { c with
      service := known, events := c.events ++ [.profilesListed request.user] }) h
    simp only [run_bind, run_call, listed]
    have chosen := choosing ‹List String›
    rw [decided] at chosen
    exact chosen

/-- A publication goes on with no other profile. -/
theorem exists_obtained {profile : String} {c' : Course σ} (h : c.console = .answering answers)
    (selected : run (obtainProfile service request) c = (.ok profile, c')) :
    ∃ left, Obtained service request c.service answers profile c'.service left := by
  rw [obtainProfile] at selected
  cases stated : request.statedProfile with
  | some text =>
    rw [stated] at selected
    cases selected
    obtain ⟨text, present, said, rfl⟩ := statedProfile_eq_some_iff.mp stated
    exact ⟨answers, .stated present said⟩
  | none =>
    rw [stated] at selected
    simp only [run_bind, run_call] at selected
    rcases listed : service.profiles request.user c.service with ⟨e | profiles, known⟩
    · rw [listed] at selected
      cases selected
    rw [listed] at selected
    have choosing := exists_run_chooseProfile (c := { c with
      service := known, events := c.events ++ [.profilesListed request.user] }) h profiles
    cases decided : firstDecision (choice? (sortedTexts profiles)) answers with
    | none =>
      rw [decided] at choosing
      obtain ⟨e, c'', failed⟩ := choosing
      exact absurd (failed.symm.trans selected) (by simp)
    | some choice =>
      obtain ⟨chosen, left⟩ := choice
      rw [decided] at choosing
      obtain ⟨events, ended⟩ := choosing
      cases ended.symm.trans selected
      exact ⟨left, .chosen (statedProfile_eq_none_iff.mp stated) listed decided⟩

/-- What a check and a decisive answer lead to: whether to submit, or why the publication
fails. -/
def Request.verdict (request : Request) (found : Except Failure Existence)
    (decisive : Option String) : Except Failure Bool :=
  match found with
  | .error e => .error e
  | .ok .absent => .ok true
  | .ok (.present _) =>
    if request.assumeYes then .ok true
    else match decisive with
      | some answer => .ok (agrees answer)
      | none => .error (.conflict request.deployable.deploymentName)

theorem run_permission_answering (h : c.console = .answering answers) (profile : String) :
    (run (permission service request profile) c).1 =
      request.verdict (service.check (request.inquiry profile) c.service).1
        (answers.find? isDecisive) := by
  rw [run_permission, run_call]
  rcases service.check (request.inquiry profile) c.service with ⟨e | existence, known⟩
  · rfl
  cases existence with
  | absent => rfl
  | present message =>
    simp only [Request.verdict]
    cases request.assumeYes with
    | true => rfl
    | false =>
      have decided := run_askForDecision (c := { c with
          service := known, events := c.events ++ [.checked (request.inquiry profile)] }) h
        (overwriteQuestion request.deployable.deploymentName) "Please answer y or n." yesOrNo?
        (.conflict request.deployable.deploymentName)
      have first := firstDecision_yesOrNo? answers
      simp only [Bool.false_eq_true, if_false, confirmOverwrite, decided]
      cases found : firstDecision yesOrNo? answers with
      | none =>
        rw [found] at first
        rw [Option.map_eq_none_iff.mp first.symm, outcome, found]
      | some decision =>
        rw [found] at first
        obtain ⟨answer, decisive, agreed⟩ := Option.map_eq_some_iff.mp first.symm
        rw [decisive, outcome, found]
        exact congrArg Except.ok agreed.symm

/-- How a publication ends once it has a profile: a verdict against it ends it, and after one for
it a submission is sent unless the envelope cannot be made. -/
theorem run_publishArtifacts_of_obtained {profile : String} {known : σ}
    (h : c.console = .answering answers)
    (obtained : Obtained service request c.service answers profile known left) :
    let final := run (publishArtifacts files service request) c
    let verdict := request.verdict (service.check (request.inquiry profile) known).1
      (left.find? isDecisive)
    ∃ sent : Option Submission,
      final.2.calls = c.calls ++ request.listing ++
        .checked (request.inquiry profile) :: (sent.map .submitted).toList ∧
      (∀ s ∈ sent, verdict = .ok true ∧ ∃ envelope, s = request.submission envelope profile) ∧
      (∀ e, verdict = .error e → final.1 = .error e) ∧
      (final.1 = .ok .declined ↔ verdict = .ok false) := by
  intro final verdict
  obtain ⟨events, selected⟩ := obtained.run_eq h
  have listed := calls_obtainProfile service request c
  have allowed : (run (permission service request profile) ⟨known, .answering left, events⟩).1 =
      _ := run_permission_answering rfl profile
  have checked := calls_permission service request profile ⟨known, .answering left, events⟩
  have course : final = _ := run_publishArtifacts files service request c
  simp only [selected] at listed course
  rcases ha : run (permission service request profile) ⟨known, .answering left, events⟩
    with ⟨e | answer, c₂⟩
  all_goals
    simp only [ha] at allowed checked course
    change _ = verdict at allowed
    rw [← allowed]
    rw [listed] at checked
  · refine ⟨none, ?_, by simp, ?_, by simp [course]⟩
    · rw [course]
      exact checked
    · rintro _ ⟨⟩
      rw [course]
  cases answer with
  | false =>
    refine ⟨none, ?_, by simp, by simp, by simp [course]⟩
    rw [course]
    exact checked
  | true =>
    cases made : Envelope.ofSpec files request.deployable.spec with
    | error e =>
      simp only [made] at course
      refine ⟨none, ?_, by simp, by simp, by simp [course]⟩
      rw [course]
      exact checked
    | ok envelope =>
      simp only [made] at course
      refine ⟨some (request.submission envelope profile), ?_, ?_, by simp, ?_⟩
      · rw [course, calls_call _ _ _ rfl, checked, List.append_assoc]
        rfl
      · rintro _ ⟨⟩
        exact ⟨rfl, envelope, rfl⟩
      · rw [course]
        cases (run (call _ _) c₂).1 <;> simp [Except.map]

theorem run_publishArtifacts_of_not_obtained (h : c.console = .answering answers)
    (missing : ¬ ∃ profile known left,
      Obtained service request c.service answers profile known left) :
    let final := run (publishArtifacts files service request) c
    final.2.calls = c.calls ++ request.listing ∧ ∃ e, final.1 = .error e := by
  intro final
  have listed := calls_obtainProfile service request c
  have course : final = _ := run_publishArtifacts files service request c
  rcases selected : run (obtainProfile service request) c with ⟨e | profile, c₁⟩
  · simp only [selected] at listed course
    rw [course]
    exact ⟨listed, e, rfl⟩
  · obtain ⟨left, obtained⟩ := exists_obtained h selected
    exact absurd ⟨profile, c₁.service, left, obtained⟩ missing

theorem verdict_eq_true_iff {found : Except Failure Existence} {decisive : Option String} :
    request.verdict found decisive = .ok true ↔
      found = .ok .absent ∨ (∃ message, found = .ok (.present message)) ∧
        (request.assumeYes = true ∨ ∃ answer ∈ decisive, agrees answer = true) := by
  rcases found with e | ⟨message⟩ | _
  · simp [Request.verdict]
  · cases h : request.assumeYes <;> cases decisive <;> simp [Request.verdict, h]
  · simp [Request.verdict]

theorem verdict_eq_false_iff {found : Except Failure Existence} {decisive : Option String} :
    request.verdict found decisive = .ok false ↔
      (∃ message, found = .ok (.present message)) ∧ request.assumeYes = false ∧
        ∃ answer ∈ decisive, agrees answer = false := by
  rcases found with e | ⟨message⟩ | _
  · simp [Request.verdict]
  · cases h : request.assumeYes <;> cases decisive <;> simp [Request.verdict, h]
  · simp [Request.verdict]

theorem verdict_undecided {message : String} (careful : request.assumeYes = false) :
    request.verdict (.ok (.present message)) none =
      .error (.conflict request.deployable.deploymentName) := by
  simp [Request.verdict, careful]

/-- A publication lists the profiles exactly if none is stated, asks the service once for the
profile it obtains, and then submits at most once. It submits only what does not exist yet or may
be replaced, by request or by the first decisive of the answers left; it is declined exactly by
such an answer; and without one it fails on an existing deployment with nothing submitted. -/
theorem submits_only_with_consent (files : Files.Tree) (service : Service σ) (request : Request)
    (answers : List String) (state : σ) :
    let final := run (publishArtifacts files service request) ⟨state, .answering answers, []⟩
    (∀ profile known left, Obtained service request state answers profile known left →
      let found := (service.check (request.inquiry profile) known).1
      let occupied := ∃ message, found = .ok (.present message)
      let decisive := left.find? isDecisive
      ∃ sent : Option Submission,
        final.2.calls = request.listing ++
          .checked (request.inquiry profile) :: (sent.map .submitted).toList ∧
        (∀ s ∈ sent,
          (found = .ok .absent ∨ occupied ∧
            (request.assumeYes = true ∨ ∃ answer ∈ decisive, agrees answer = true)) ∧
          s.deployable.name = (request.inquiry profile).fileName ∧
          s.localScript.name = (request.inquiry profile).fileName ∧
          s.profile = (request.inquiry profile).profile) ∧
        (final.1 = .ok .declined ↔ occupied ∧ request.assumeYes = false ∧
          ∃ answer ∈ decisive, agrees answer = false) ∧
        (occupied → request.assumeYes = false → decisive = none →
          final.1 = .error (.conflict request.deployable.deploymentName) ∧ sent = none)) ∧
    ((¬ ∃ profile known left, Obtained service request state answers profile known left) →
      final.2.calls = request.listing ∧ ∃ e, final.1 = .error e) := by
  intro final
  refine ⟨?_, run_publishArtifacts_of_not_obtained (c := ⟨state, .answering answers, []⟩) rfl⟩
  intro profile known left obtained found occupied decisive
  obtain ⟨sent, calls, allowed, failed, declined⟩ :=
    @run_publishArtifacts_of_obtained σ files service request answers left
      ⟨state, .answering answers, []⟩ profile known rfl obtained
  refine ⟨sent, calls, ?_, declined.trans verdict_eq_false_iff, ?_⟩
  · intro s hs
    obtain ⟨verdict, envelope, rfl⟩ := allowed s hs
    exact ⟨verdict_eq_true_iff.mp verdict, rfl, rfl, rfl⟩
  · rintro ⟨message, present⟩ careful undecided
    have refused : request.verdict found decisive =
        .error (.conflict request.deployable.deploymentName) := by
      rw [present, undecided]
      exact verdict_undecided careful
    refine ⟨failed _ refused, Option.eq_none_iff_forall_not_mem.mpr fun s hs => ?_⟩
    exact absurd (refused.symm.trans (allowed s hs).1) (by simp)

/-- A user who chooses the first profile at last, and does not want the deployment replaced. -/
theorem submits_only_with_consent_declined :
    let left := ["maybe", " NO "]
    let final := run (publishArtifacts ⟨[], []⟩ Service.occupied Request.plain)
      ⟨(), .answering ("2" :: "1" :: left), []⟩
    Obtained Service.occupied Request.plain () ("2" :: "1" :: left) "p" () left ∧
      final.1 = .ok .declined ∧
      final.2.calls = [.profilesListed "u", .checked ⟨"w_PROD.py", "p"⟩] := by
  intro left final
  have obtained : Obtained Service.occupied Request.plain () ("2" :: "1" :: left) "p" () left := by
    have listed : Service.occupied.profiles "u" () = (.ok ["p"], ()) := rfl
    refine .chosen (by simp [Request.plain]) listed ?_
    rw [sortedTexts, List.mergeSort_singleton]
    rfl
  obtain ⟨sent, calls, consented, declined, -⟩ := (submits_only_with_consent ⟨[], []⟩
    Service.occupied Request.plain ("2" :: "1" :: left) ()).1 "p" () left obtained
  have first : left.find? isDecisive = some " NO " := rfl
  have unsent : sent = none := by
    refine Option.eq_none_iff_forall_not_mem.mpr fun s hs => ?_
    rcases (consented s hs).1 with absent | ⟨-, assumed | ⟨answer, decisive, agreed⟩⟩
    · cases absent
    · cases assumed
    · rw [first] at decisive
      cases decisive
      exact absurd agreed (by decide)
  subst unsent
  exact ⟨obtained, declined.mpr ⟨⟨"it exists", rfl⟩, rfl, " NO ", rfl, rfl⟩, calls⟩

end WorkflowCompiler.Publish
