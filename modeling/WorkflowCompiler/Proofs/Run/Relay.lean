import Mathlib.Logic.Function.Basic
import WorkflowCompiler.Run.Relay

/-!
Relays. A step moves one line on, so the lines of a stream, those received before those in the
queue before those still to send, are the same before and after it. As long as the queue has room
for one line a relay that is not finished can go on, and it is finished after two steps for each
line.
-/
namespace WorkflowCompiler.Run

def textsOf (stream : Stream) (lines : List Line) : List String :=
  (lines.filter (·.stream = stream)).map (·.text)

@[simp]
theorem textsOf_nil (stream : Stream) : textsOf stream [] = [] := rfl

@[simp]
theorem textsOf_cons (stream : Stream) (line : Line) (lines : List Line) :
    textsOf stream (line :: lines) =
      (if line.stream = stream then [line.text] else []) ++ textsOf stream lines := by
  by_cases own : line.stream = stream <;> simp [textsOf, own]

@[simp]
theorem textsOf_append (stream : Stream) (front back : List Line) :
    textsOf stream (front ++ back) = textsOf stream front ++ textsOf stream back := by
  simp [textsOf]

theorem textsOf_eq_nil {stream : Stream} {lines : List Line}
    (others : ∀ line ∈ lines, line.stream ≠ stream) : textsOf stream lines = [] := by
  simpa [textsOf] using others

@[simp]
theorem textsOf_map (stream other : Stream) (texts : List String) :
    textsOf stream (texts.map (⟨other, ·⟩)) = if other = stream then texts else [] := by
  induction texts with
  | nil => simp
  | cons text texts ih => by_cases own : other = stream <;> simp_all

/-- Every line belongs to one of the streams. -/
theorem length_eq_add_textsOf (lines : List Line) :
    lines.length = (textsOf .output lines).length + (textsOf .errors lines).length := by
  induction lines with
  | nil => rfl
  | cons line lines ih =>
    cases own : line.stream <;> simp [own, ih] <;> omega

namespace Relay

/-- The lines that were received, that are in the queue and that are still to send. -/
def lines (relay : Relay) : List Line :=
  relay.received ++ relay.queue ++ relay.output ++ relay.errors

structure Apart (relay : Relay) : Prop where
  output : ∀ line ∈ relay.output, line.stream = .output
  errors : ∀ line ∈ relay.errors, line.stream = .errors

def pending (relay : Relay) : Nat :=
  2 * (relay.output.length + relay.errors.length) + relay.queue.length

def owing (owed : Stream → List String) (queue received : List Line) : Relay :=
  ⟨(owed .output).map (⟨.output, ·⟩), (owed .errors).map (⟨.errors, ·⟩), queue, received⟩

section

variable {capacity : Nat} {before after relay : Relay}

theorem Step.apart (step : Step capacity before after) (apart : before.Apart) : after.Apart := by
  obtain ⟨output, errors⟩ := apart
  cases step with
  | sendOutput => exact ⟨fun line later => output line (List.mem_cons_of_mem _ later), errors⟩
  | sendErrors => exact ⟨output, fun line later => errors line (List.mem_cons_of_mem _ later)⟩
  | receive => exact ⟨output, errors⟩

/-- A step keeps the lines of each stream in order. -/
theorem Step.textsOf_lines (step : Step capacity before after) (apart : before.Apart)
    (stream : Stream) : textsOf stream after.lines = textsOf stream before.lines := by
  cases step with
  | sendOutput => simp [lines]
  | @sendErrors line output errors queue received =>
    -- the line overtakes what the other pump has still to send
    have own : line.stream = .errors := apart.errors line List.mem_cons_self
    cases stream with
    | output => simp [lines, own]
    | errors =>
      have others : textsOf .errors output = [] :=
        textsOf_eq_nil fun l inside => by simp [apart.output l inside]
      simp [lines, own, others]
  | receive => simp [lines]

theorem Steps.textsOf_lines (steps : Steps capacity before after) (apart : before.Apart)
    (stream : Stream) : textsOf stream after.lines = textsOf stream before.lines := by
  induction steps with
  | refl => rfl
  | step step _ ih => rw [ih (step.apart apart), step.textsOf_lines apart]

theorem Step.pending_eq (step : Step capacity before after) :
    before.pending = after.pending + 1 := by
  cases step <;> simp [pending] <;> omega

theorem finished_of_pending (none : relay.pending = 0) : relay.Finished := by
  obtain ⟨output, errors, queue, received⟩ := relay
  simp only [pending] at none
  exact ⟨List.length_eq_zero_iff.mp (by dsimp only; omega),
    List.length_eq_zero_iff.mp (by dsimp only; omega),
    List.length_eq_zero_iff.mp (by dsimp only; omega)⟩

theorem Steps.eq_of_finished (finished : before.Finished) (steps : Steps capacity before after) :
    after = before := by
  cases steps with
  | refl => rfl
  | step step =>
    obtain ⟨output, errors, queue⟩ := finished
    cases step
    · exact absurd output (List.cons_ne_nil _ _)
    · exact absurd errors (List.cons_ne_nil _ _)
    · exact absurd queue (List.cons_ne_nil _ _)

/-- A queue with room for one line never stops a relay. -/
theorem step_next (room : 0 < capacity) (unfinished : 0 < relay.pending) :
    Step capacity relay (relay.next capacity) := by
  obtain ⟨output, errors, queue, received⟩ := relay
  by_cases free : queue.length < capacity
  · rcases output with _ | ⟨line, output⟩
    · rcases errors with _ | ⟨line, errors⟩
      · rcases queue with _ | ⟨line, queue⟩
        · simp [pending] at unfinished
        · rw [next, if_pos free]
          exact .receive
      · rw [next, if_pos free]
        exact .sendErrors free
    · rw [next, if_pos free]
      exact .sendOutput free
  · rcases queue with _ | ⟨line, queue⟩
    · exact absurd room free
    · unfold next
      rw [if_neg free]
      exact .receive

theorem run_steps (room : 0 < capacity) (relay : Relay) :
    Steps capacity relay (relay.run capacity relay.pending) ∧
      (relay.run capacity relay.pending).pending = 0 := by
  induction count : relay.pending generalizing relay with
  | zero => exact ⟨.refl relay, count⟩
  | succ pending ih =>
    have step : Step capacity relay (relay.next capacity) := step_next room (by omega)
    have less := step.pending_eq
    obtain ⟨steps, done⟩ := ih (relay.next capacity) (by omega)
    exact ⟨.step step steps, done⟩

/-- The lines that are relayed are those of one finished relay. -/
theorem exists_relayed (room : 0 < capacity) (output errors : List Line) :
    ∃ relay, Steps capacity (start output errors) relay ∧ relay.Finished ∧
      relay.received = relayed capacity output errors := by
  obtain ⟨steps, done⟩ := run_steps room (start output errors)
  exact ⟨_, steps, finished_of_pending done, rfl⟩

end

section

variable {capacity : Nat} {owed : Stream → List String} {queue received : List Line}

theorem apart_owing : (owing owed queue received).Apart :=
  ⟨by simp [owing], by simp [owing]⟩

theorem textsOf_lines_owing (stream : Stream) :
    textsOf stream (owing owed queue received).lines =
      textsOf stream received ++ textsOf stream queue ++ owed stream := by
  cases stream <;> simp [lines, owing]

/-- A pump sends the first of the lines that it owes. -/
theorem step_owing {stream : Stream} {text : String} {rest : List String}
    (owes : owed stream = text :: rest) (room : queue.length < capacity) :
    Step capacity (owing owed queue received)
      (owing (Function.update owed stream rest) (queue ++ [⟨stream, text⟩]) received) := by
  cases stream with
  | output =>
    simp only [owing, owes, List.map_cons, Function.update_self, ne_eq, reduceCtorEq,
      not_false_eq_true, Function.update_of_ne]
    exact .sendOutput room
  | errors =>
    simp only [owing, owes, List.map_cons, Function.update_self, ne_eq, reduceCtorEq,
      not_false_eq_true, Function.update_of_ne]
    exact .sendErrors room

/-- All that may happen next. -/
theorem Step.owing_cases {next : Relay} (step : Step capacity (owing owed queue received) next) :
    (∃ stream text rest, owed stream = text :: rest ∧ queue.length < capacity ∧
      next = owing (Function.update owed stream rest) (queue ++ [⟨stream, text⟩]) received) ∨
    ∃ line rest, queue = line :: rest ∧ next = owing owed rest (received ++ [line]) := by
  generalize same : owing owed queue received = relay at step
  cases step with
  | sendOutput room =>
    simp only [owing, mk.injEq] at same
    obtain ⟨first, rfl, rfl, rfl⟩ := same
    obtain ⟨text, rest, owes, rfl, rfl⟩ := List.map_eq_cons_iff.mp first
    exact .inl ⟨.output, text, rest, owes, room, by simp [owing]⟩
  | sendErrors room =>
    simp only [owing, mk.injEq] at same
    obtain ⟨rfl, first, rfl, rfl⟩ := same
    obtain ⟨text, rest, owes, rfl, rfl⟩ := List.map_eq_cons_iff.mp first
    exact .inl ⟨.errors, text, rest, owes, room, by simp [owing]⟩
  | receive =>
    simp only [owing, mk.injEq] at same
    obtain ⟨rfl, rfl, rfl, rfl⟩ := same
    exact .inr ⟨_, _, rfl, rfl⟩

/-- Whoever goes next, the lines of a stream stay what they are. -/
theorem textsOf_of_steps {owed' : Stream → List String} {queue' received' : List Line}
    (steps : Steps capacity (owing owed queue received) (owing owed' queue' received'))
    (stream : Stream) :
    textsOf stream received' ++ textsOf stream queue' ++ owed' stream =
      textsOf stream received ++ textsOf stream queue ++ owed stream := by
  rw [← textsOf_lines_owing, ← textsOf_lines_owing]
  exact steps.textsOf_lines apart_owing stream

end

end Relay

end WorkflowCompiler.Run
