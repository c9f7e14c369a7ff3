import WorkflowCompiler.Publish.Flow

/-!
Runs of dialogues. A dialogue is run piece by piece: what is asked of the service and what it
answers is told by `run_call`, and a dialogue with the user alone is quiet, that is, the service
sees nothing of it. Users who reply with lines until there are no more get their first answer
that decides taken, and those after it stay theirs.
-/
namespace WorkflowCompiler.Publish

def Event.isCall : Event → Bool
  | .profilesListed _ => true
  | .checked _ => true
  | .submitted _ => true
  | .said _ => false
  | .asked _ => false

def Course.calls {σ : Type} (course : Course σ) : List Event :=
  course.events.filter Event.isCall

/-- A user who replies with these lines. -/
def Console.answering (answers : List String) : Console where
  replies := answers.map .line

/-- The first answer that decides, as what it decides, and the answers after it. -/
def firstDecision {α : Type} (decide : String → Option α) :
    List String → Option (α × List String)
  | [] => none
  | answer :: answers =>
    match decide answer with
    | some a => some (a, answers)
    | none => firstDecision decide answers

/-- What a question with these answers to come ends in, and the answers that are then left. -/
def outcome {α : Type} (decide : String → Option α) (ended : Failure) (answers : List String) :
    Except Failure α × List String :=
  match firstDecision decide answers with
  | some (a, left) => (.ok a, left)
  | none => (.error ended, [])

/-- What a user sees of a question when so many answers to it do not decide. -/
def asking (question complaint : String) (undecided : Nat) : List Event :=
  (List.replicate undecided [.asked question, .said complaint]).flatten ++ [.asked question]

theorem asking_succ (question complaint : String) (undecided : Nat) :
    asking question complaint (undecided + 1) =
      .asked question :: .said complaint :: asking question complaint undecided := by
  simp [asking, List.replicate_succ]

namespace Dialogue

variable {σ α β : Type}

@[simp] theorem run_pure (a : α) (c : Course σ) : run (pure a) c = (.ok a, c) := rfl

@[simp] theorem run_throw (e : Failure) (c : Course σ) :
    run (throw e : Dialogue σ α) c = (.error e, c) := rfl

@[simp] theorem run_get (c : Course σ) : run get c = (.ok c, c) := rfl

@[simp] theorem run_modify (f : Course σ → Course σ) (c : Course σ) :
    run (modify f) c = (.ok (), f c) := rfl

@[simp] theorem run_record (e : Event) (c : Course σ) :
    run (record e) c = (.ok (), { c with events := c.events ++ [e] }) := rfl

/-- What follows is run from where the first part ended, unless that failed. -/
theorem run_bind (d : Dialogue σ α) (f : α → Dialogue σ β) (c : Course σ) :
    run (d >>= f) c = match run d c with
      | (.ok a, c') => run (f a) c'
      | (.error e, c') => (.error e, c') := by
  rcases h : run d c with ⟨e | a, c'⟩
  all_goals
    simp only [run, ExceptT.run_bind, StateT.run_bind] at h ⊢
    rw [h]
    rfl

theorem run_call (e : Event) (act : σ → Except Failure α × σ) (c : Course σ) :
    run (call e act) c =
      ((act c.service).1, { c with service := (act c.service).2, events := c.events ++ [e] }) := by
  simp only [call, run_bind, run_record, run_get, run_modify]
  split
  · next h => simp only [run_pure, h]
  · next h => simp only [run_throw, h]

/-- The service sees nothing of the dialogue. -/
def Quiet (d : Dialogue σ α) : Prop :=
  ∀ c, (run d c).2.service = c.service ∧ (run d c).2.calls = c.calls

theorem quiet_pure (a : α) : Quiet (pure a : Dialogue σ α) := fun _ => ⟨rfl, rfl⟩

theorem quiet_throw (e : Failure) : Quiet (throw e : Dialogue σ α) := fun _ => ⟨rfl, rfl⟩

theorem Quiet.bind {d : Dialogue σ α} {f : α → Dialogue σ β} (hd : Quiet d)
    (hf : ∀ a, Quiet (f a)) : Quiet (d >>= f) := by
  intro c
  have first := hd c
  rw [run_bind]
  rcases h : run d c with ⟨e | a, c'⟩
  · rwa [h] at first
  · rw [h] at first
    exact ⟨(hf a c').1.trans first.1, (hf a c').2.trans first.2⟩

theorem quiet_get : Quiet (get : Dialogue σ (Course σ)) := fun _ => ⟨rfl, rfl⟩

theorem quiet_record {e : Event} (own : e.isCall = false) : Quiet (record e : Dialogue σ Unit) := by
  intro c
  simp [Course.calls, own]

theorem quiet_say (text : String) : Quiet (say text : Dialogue σ Unit) := by
  refine quiet_get.bind fun c => ?_
  cases c.console.statementFault with
  | some fault => exact quiet_throw _
  | none => exact quiet_record rfl

theorem quiet_reply : Quiet (reply : Dialogue σ Reply) := by
  refine quiet_get.bind fun c => ?_
  cases c.console.replies with
  | nil => exact quiet_pure _
  | cons r rest => exact Quiet.bind (fun _ => ⟨rfl, rfl⟩) fun _ => quiet_pure _

theorem quiet_ask (question : String) : Quiet (ask question : Dialogue σ (Option String)) := by
  refine quiet_get.bind fun c => ?_
  -- what is left to do once it is known whether the question can be put
  extract_lets put
  have quiet_put : ∀ u, Quiet (put u) := by
    intro u
    refine (quiet_record rfl).bind fun _ => quiet_reply.bind fun r => ?_
    cases r with
    | line text => exact quiet_pure _
    | ended => exact quiet_pure _
    | broken detail => exact quiet_throw _
  cases c.console.questionFault with
  | none => exact quiet_put ()
  | some fault =>
    by_cases h : question ≠ ""
    · simp only [if_pos h]
      exact (quiet_throw _).bind quiet_put
    · simp only [if_neg h]
      exact quiet_put ()

theorem quiet_askUntil (question complaint : String) (decide : String → Option α)
    (ended : Failure) (questions : Nat) :
    Quiet (askUntil question complaint decide ended questions : Dialogue σ α) := by
  induction questions with
  | zero => exact quiet_throw _
  | succ questions ih =>
    refine (quiet_ask question).bind fun answer => ?_
    cases answer with
    | none => exact quiet_throw _
    | some answer =>
      cases h : decide answer with
      | some a => simpa only [h] using quiet_pure a
      | none => simpa only [h] using (quiet_say complaint).bind fun _ => ih

theorem quiet_askForDecision (question complaint : String) (decide : String → Option α)
    (ended : Failure) :
    Quiet (askForDecision question complaint decide ended : Dialogue σ α) :=
  quiet_get.bind fun _ => quiet_askUntil question complaint decide ended _

theorem quiet_forM_say (texts : List String) : Quiet (texts.forM say : Dialogue σ PUnit) := by
  induction texts with
  | nil => exact quiet_pure _
  | cons text texts ih => exact (quiet_say text).bind fun _ => ih

theorem run_say {c : Course σ} (heard : c.console.statementFault = none) (text : String) :
    run (say text) c = (.ok (), { c with events := c.events ++ [.said text] }) := by
  simp [say, run_bind, heard]

theorem run_forM_say {c : Course σ} (heard : c.console.statementFault = none)
    (texts : List String) :
    run (texts.forM say) c = (.ok ⟨⟩, { c with events := c.events ++ texts.map .said }) := by
  induction texts generalizing c with
  | nil => simp [List.forM_nil]
  | cons text texts ih =>
    have rest := ih (c := { c with events := c.events ++ [.said text] }) heard
    change run (say text >>= fun _ => texts.forM say) c = _
    rw [run_bind, run_say heard]
    simpa using rest

section Answering

variable {answers : List String} {c : Course σ}

/-- What is told reaches an answering user. -/
theorem heard_of_answering (h : c.console = .answering answers) :
    c.console.statementFault = none := by
  rw [h]
  rfl

/-- An answering user's first answer is taken, if there is one left. -/
theorem run_ask (h : c.console = .answering answers) (question : String) :
    run (ask question) c = (.ok answers.head?,
      { c with console := .answering answers.tail, events := c.events ++ [.asked question] }) := by
  cases answers with
  | nil => simp only [ask, reply, run_bind, run_get, run_pure, run_record, h, Console.answering,
      List.map_nil, List.head?_nil, List.tail_nil]
  | cons answer answers => simp only [ask, reply, run_bind, run_get, run_pure, run_record,
      run_modify, h, Console.answering, List.map_cons, List.head?_cons, List.tail_cons]

/-- The first answer that decides is taken, and those before it are lost, with a complaint and
another question for each. -/
theorem run_askUntil (h : c.console = .answering answers) (question complaint : String)
    (decide : String → Option α) (ended : Failure) {questions : Nat}
    (enough : answers.length < questions) :
    run (askUntil question complaint decide ended questions) c =
      ((outcome decide ended answers).1, { c with
        console := .answering (outcome decide ended answers).2
        events := c.events ++
          asking question complaint (answers.findIdx fun answer => (decide answer).isSome) }) := by
  induction questions generalizing answers c with
  | zero => omega
  | succ questions ih =>
    rw [askUntil, run_bind, run_ask h]
    cases answers with
    | nil => rfl
    | cons answer answers =>
      simp only [List.head?_cons, List.tail_cons, outcome, firstDecision, List.findIdx_cons]
      cases decided : decide answer with
      | some a => rfl
      | none =>
        simp only [run_bind, Option.isSome_none, cond_false, asking_succ]
        rw [run_say rfl]
        refine (ih rfl (by simpa using enough)).trans ?_
        simp only [outcome, List.append_assoc, List.cons_append, List.nil_append]

theorem run_askForDecision (h : c.console = .answering answers) (question complaint : String)
    (decide : String → Option α) (ended : Failure) :
    run (askForDecision question complaint decide ended) c =
      ((outcome decide ended answers).1, { c with
        console := .answering (outcome decide ended answers).2
        events := c.events ++
          asking question complaint (answers.findIdx fun answer => (decide answer).isSome) }) := by
  rw [askForDecision, run_bind]
  refine run_askUntil h question complaint decide ended ?_
  simp [h, Console.answering]

end Answering

end Dialogue

end WorkflowCompiler.Publish
