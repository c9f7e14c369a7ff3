import WorkflowCompiler.Proofs.Publish.Consent
import WorkflowCompiler.Proofs.Publish.Failing

/-!
Decisions of users of every kind: their replies may be lines or not, and what they are told or
asked may not reach them. A talk ends in the first line that decides if all that comes before it
gets through, and in nothing else.
-/
namespace WorkflowCompiler.Publish

open Dialogue

/-- The first line that decides, as what it decides and the console after it. A line that does not
decide is complained about. -/
inductive Decides {α : Type} (decide : String → Option α) : Console → α → Console → Prop
  | now {console : Console} {text : String} {left : List Reply} {a : α} :
      console.questionFault = none → console.replies = .line text :: left →
      decide text = some a → Decides decide console a { console with replies := left }
  | later {console last : Console} {text : String} {left : List Reply} {a : α} :
      console.questionFault = none → console.replies = .line text :: left →
      decide text = none → console.statementFault = none →
      Decides decide { console with replies := left } a last → Decides decide console a last

/-- The profile that a publication goes on with: the one stated, or the one that the user chooses
from those that the service lists. -/
inductive Chosen {σ : Type} (service : Service σ) (options : Options) (state : σ)
    (console : Console) : String → σ → Console → Prop
  | stated {text : String} : options.profile = some text → Text.trim text ≠ "" →
      Chosen service options state console (Text.trim text) state console
  | listed {profiles : List String} {known : σ} {profile : String} {last : Console} :
      (∀ text, options.profile = some text → Text.trim text = "") →
      service.profiles options.user state = (.ok profiles, known) →
      console.statementFault = none →
      Decides (choice? (sortedTexts profiles)) console profile last →
      Chosen service options state console profile known last

def Confirmed {σ : Type} (service : Service σ) (options : Options) (state : σ)
    (console : Console) : Prop :=
  ∃ profile known between last, Chosen service options state console profile known between ∧
    Decides yesOrNo? between true last

namespace Dialogue

variable {σ α : Type} {c c' : Course σ} {decide : String → Option α} {a : α} {last : Console}
  {question complaint : String} {ended : Failure} {questions : Nat}

theorem run_say_eq_ok {u : Unit} {text : String} (h : run (say text) c = (.ok u, c')) :
    c.console.statementFault = none ∧ c'.console = c.console := by
  cases free : c.console.statementFault with
  | none =>
    rw [run_say free] at h
    cases h
    exact ⟨rfl, rfl⟩
  | some fault =>
    simp [say, run_bind, free] at h

theorem run_ask_line {text : String} {left : List Reply}
    (free : c.console.questionFault = none) (next : c.console.replies = .line text :: left) :
    run (ask question) c = (.ok (some text), { c with
      console := { c.console with replies := left }, events := c.events ++ [.asked question] }) := by
  simp only [ask, reply, run_bind, run_get, run_pure, run_record, run_modify, free, next]

/-- Only a line answers a question. -/
theorem run_ask_eq_some (asked : question ≠ "") {text : String}
    (h : run (ask question) c = (.ok (some text), c')) : ∃ left,
      c.console.questionFault = none ∧ c.console.replies = .line text :: left ∧
      c'.console = { c.console with replies := left } := by
  cases free : c.console.questionFault with
  | some fault => simp [ask, run_bind, free, asked] at h
  | none =>
    cases next : c.console.replies with
    | nil =>
      simp only [ask, reply, run_bind, run_get, run_pure, run_record, free, next] at h
      cases h
    | cons first left =>
      cases first with
      | line answer =>
        rw [run_ask_line free next] at h
        cases h
        exact ⟨left, rfl, rfl, rfl⟩
      | ended =>
        simp only [ask, reply, run_bind, run_get, run_pure, run_record, run_modify, free, next] at h
        cases h
      | broken detail =>
        simp only [ask, reply, run_bind, run_get, run_pure, run_record, run_modify, free, next] at h
        cases h

/-- By induction on the questions that may still be put. -/
theorem decides_of_run_askUntil (asked : question ≠ "")
    (h : run (askUntil question complaint decide ended questions) c = (.ok a, c')) :
    Decides decide c.console a c'.console := by
  induction questions generalizing c with
  | zero => cases h
  | succ questions ih =>
    rw [askUntil, run_bind] at h
    rcases answered : run (ask question) c with ⟨e | _ | text, c₁⟩
    · rw [answered] at h
      cases h
    · rw [answered] at h
      cases h
    · obtain ⟨left, free, next, same⟩ := run_ask_eq_some asked answered
      rw [answered] at h
      cases decided : decide text with
      | some b =>
        simp only [decided, run_pure] at h
        cases h
        rw [same]
        exact .now free next decided
      | none =>
        simp only [decided, run_bind] at h
        rcases told : run (say complaint) c₁ with ⟨e | u, c₂⟩
        · rw [told] at h
          cases h
        · rw [told] at h
          obtain ⟨heard, unchanged⟩ := run_say_eq_ok told
          have further := ih h
          rw [unchanged, same] at further
          rw [same] at heard
          exact .later free next decided heard further

/-- By induction on the lines up to the one that decides. -/
theorem run_askUntil_of_decides (h : Decides decide c.console a last)
    (enough : c.console.replies.length < questions) :
    ∃ events, run (askUntil question complaint decide ended questions) c =
      (.ok a, { c with console := last, events }) := by
  generalize spelled : c.console = console at h
  induction h generalizing c questions with
  | now free next decided =>
    obtain ⟨questions, rfl⟩ := Nat.exists_eq_succ_of_ne_zero (Nat.ne_zero_of_lt enough)
    subst spelled
    rw [askUntil, run_bind, run_ask_line free next]
    simp only [decided]
    exact ⟨_, rfl⟩
  | @later _ _ _ left _ free next decided heard _ ih =>
    obtain ⟨questions, rfl⟩ := Nat.exists_eq_succ_of_ne_zero (Nat.ne_zero_of_lt enough)
    subst spelled
    rw [askUntil, run_bind, run_ask_line free next]
    simp only [decided, run_bind]
    have told := run_say (c := { c with
      console := { c.console with replies := left }, events := c.events ++ [.asked question] })
      heard complaint
    rw [told]
    refine ih ?_ rfl
    rw [next] at enough
    exact Nat.lt_of_succ_lt_succ enough

theorem decides_of_run_askForDecision (asked : question ≠ "")
    (h : run (askForDecision question complaint decide ended) c = (.ok a, c')) :
    Decides decide c.console a c'.console := by
  rw [askForDecision, run_bind] at h
  exact decides_of_run_askUntil asked h

theorem run_askForDecision_of_decides (h : Decides decide c.console a last) :
    ∃ events, run (askForDecision question complaint decide ended) c =
      (.ok a, { c with console := last, events }) := by
  rw [askForDecision, run_bind]
  exact run_askUntil_of_decides h (Nat.lt_succ_self _)

end Dialogue

section Choice

variable {σ : Type} {service : Service σ} {options : Options} {build : Script.Build}
  {c c' : Course σ} {profile : String}

theorem append_ne_empty {s t : String} (h : t ≠ "") : s ++ t ≠ "" := by
  intro empty
  have chars := congrArg String.toList empty
  rw [String.toList_append] at chars
  exact h (String.toList_inj.mp (List.append_eq_nil_iff.mp chars).2)

theorem decides_of_run_confirmOverwrite {deployment : String} {answer : Bool}
    (h : run (confirmOverwrite deployment) c = (.ok answer, c')) :
    Decides yesOrNo? c.console answer c'.console :=
  decides_of_run_askForDecision (append_ne_empty (by decide)) h

theorem run_confirmOverwrite_of_decides {deployment : String} {answer : Bool} {last : Console}
    (h : Decides yesOrNo? c.console answer last) :
    ∃ events, run (confirmOverwrite deployment) c = (.ok answer, { c with console := last, events }) :=
  run_askForDecision_of_decides h

theorem run_confirmOverwrite_iff {deployment : String} {answer : Bool} :
    (run (confirmOverwrite deployment) c).1 = .ok answer ↔
      ∃ last, Decides yesOrNo? c.console answer last := by
  constructor
  · intro h
    exact ⟨_, decides_of_run_confirmOverwrite (Prod.ext h rfl)⟩
  · rintro ⟨last, decided⟩
    obtain ⟨events, ran⟩ : ∃ events, run (confirmOverwrite deployment) c =
      (.ok answer, { c with console := last, events }) := run_confirmOverwrite_of_decides decided
    rw [ran]

/-- Permission is given for what does not exist, and for what may be replaced. -/
theorem run_permission_iff (request : Request) :
    (run (permission service request profile) c).1 = .ok true ↔
      let found := (service.check (request.inquiry profile) c.service).1
      found = .ok .absent ∨ (∃ message, found = .ok (.present message)) ∧
        (request.assumeYes = true ∨ ∃ last, Decides yesOrNo? c.console true last) := by
  rw [run_permission, run_call]
  rcases service.check (request.inquiry profile) c.service with ⟨e | ⟨message⟩ | _, known⟩
  · simp
  · by_cases assumed : request.assumeYes = true
    · simp [assumed]
    · simp [assumed, run_confirmOverwrite_iff]
  · simp

theorem service_permission (request : Request) :
    (run (permission service request profile) c).2.service =
      (service.check (request.inquiry profile) c.service).2 := by
  rw [run_permission, run_call]
  rcases service.check (request.inquiry profile) c.service with ⟨e | ⟨message⟩ | _, known⟩
  · rfl
  · dsimp only
    split
    · rfl
    · exact (quiet_confirmOverwrite _ _).1
  · rfl

theorem run_permission_of_error {request : Request} {e : Failure}
    (h : (service.check (request.inquiry profile) c.service).1 = .error e) :
    (run (permission service request profile) c).1 = .error e := by
  rw [run_permission, run_call, h]

/-- There is nothing to choose without profiles. -/
theorem not_decides_choice?_nil {console last : Console} :
    ¬Decides (choice? []) console profile last := by
  have never : ∀ answer, choice? [] answer = none := by
    intro answer
    rw [choice?]
    split <;> rfl
  generalize spelled : choice? [] = decide at never
  intro h
  induction h with
  | now _ _ decided =>
    rw [never] at decided
    cases decided
  | later _ _ _ _ _ ih => exact ih

theorem decides_of_run_chooseProfile {profiles : List String}
    (h : run (chooseProfile profiles) c = (.ok profile, c')) :
    c'.service = c.service ∧ c.console.statementFault = none ∧
      Decides (choice? (sortedTexts profiles)) c.console profile c'.console := by
  have kept : c'.service = c.service := by
    have quiet := (quiet_chooseProfile profiles c).1
    rwa [h] at quiet
  rw [chooseProfile] at h
  by_cases empty : profiles = []
  · rw [if_pos empty, run_bind] at h
    cases h
  · simp only [if_neg empty, run_bind] at h
    rcases told : run (say "Available project profiles:") c with ⟨e | u, c₁⟩
    · rw [told] at h
      cases h
    · rw [told] at h
      obtain ⟨heard, same⟩ := run_say_eq_ok told
      simp only [run_forM_say (same ▸ heard)] at h
      have decided := decides_of_run_askForDecision (append_ne_empty (by decide)) h
      exact ⟨kept, heard, same ▸ decided⟩

theorem run_chooseProfile_of_decides {profiles : List String} {last : Console}
    (heard : c.console.statementFault = none)
    (h : Decides (choice? (sortedTexts profiles)) c.console profile last) :
    ∃ events, run (chooseProfile profiles) c = (.ok profile, { c with console := last, events }) := by
  have some : profiles ≠ [] := by
    rintro rfl
    have sorted : sortedTexts [] = [] := by simp [sortedTexts]
    exact not_decides_choice?_nil (sorted ▸ h)
  have items := run_forM_say
    (c := { c with events := c.events ++ [.said "Available project profiles:"] }) heard
    (numbered (sortedTexts profiles))
  simp only [chooseProfile, if_neg some, run_bind, run_say heard, items]
  exact run_askForDecision_of_decides (c := { c with events := _ }) h

/-- A publication goes on with the profile that is chosen, and with no other. -/
theorem chosen_of_run_obtainProfile
    (h : run (obtainProfile service (options.request build)) c = (.ok profile, c')) :
    Chosen service options c.service c.console profile c'.service c'.console := by
  rw [obtainProfile] at h
  cases stated : (options.request build).statedProfile with
  | some text =>
    rw [stated] at h
    cases h
    obtain ⟨text, present, said, rfl⟩ := statedProfile_eq_some_iff.mp stated
    exact .stated present said
  | none =>
    rw [stated] at h
    simp only [run_bind, run_call] at h
    rcases answered : service.profiles (options.request build).user c.service
      with ⟨e | profiles, known⟩
    · rw [answered] at h
      cases h
    · rw [answered] at h
      obtain ⟨kept, heard, decided⟩ := decides_of_run_chooseProfile h
      rw [kept]
      exact .listed (statedProfile_eq_none_iff.mp stated) answered heard decided

theorem Chosen.run_obtainProfile {known : σ} {last : Console}
    (h : Chosen service options c.service c.console profile known last) :
    ∃ events, run (obtainProfile service (options.request build)) c =
      (.ok profile, ⟨known, last, events⟩) := by
  rw [obtainProfile]
  cases h with
  | @stated text present said =>
    have stated : (options.request build).statedProfile = some (Text.trim text) :=
      statedProfile_eq_some_iff.mpr ⟨text, present, said, rfl⟩
    rw [stated]
    exact ⟨c.events, rfl⟩
  | @listed profiles known _ _ unstated answered heard decided =>
    have stated : (options.request build).statedProfile = none :=
      statedProfile_eq_none_iff.mpr unstated
    rw [stated]
    simp only [run_bind, run_call]
    have answered' : service.profiles (options.request build).user c.service =
        (.ok profiles, known) := answered
    rw [answered']
    exact run_chooseProfile_of_decides (c := { c with
      service := known, events := c.events ++ [.profilesListed options.user] }) heard decided

theorem Chosen.unique_of_run {known : σ} {last : Console} {result : Except Failure String}
    (h : Chosen service options c.service c.console profile known last)
    (ran : run (obtainProfile service (options.request build)) c = (result, c')) :
    result = .ok profile ∧ c'.service = known ∧ c'.console = last := by
  obtain ⟨events, obtained⟩ : ∃ events, run (obtainProfile service (options.request build)) c =
    (.ok profile, ⟨known, last, events⟩) := h.run_obtainProfile
  cases obtained.symm.trans ran
  exact ⟨rfl, rfl, rfl⟩

/-- Whether the user confirms shows once the profile has been obtained. -/
theorem confirmed_iff (h : run (obtainProfile service (options.request build)) c = (.ok profile, c')) :
    Confirmed service options c.service c.console ↔
      ∃ last, Decides yesOrNo? c'.console true last := by
  constructor
  · rintro ⟨other, known, between, last, chosen, decided⟩
    obtain ⟨-, -, rfl⟩ := chosen.unique_of_run h
    exact ⟨last, decided⟩
  · rintro ⟨last, decided⟩
    exact ⟨profile, c'.service, c'.console, last, chosen_of_run_obtainProfile h, decided⟩

end Choice

end WorkflowCompiler.Publish
