import WorkflowCompiler.Proofs.Run.Handover

/-!
Every line of a child process is handed on. However the reads cut its two streams and whoever goes
next, the receiver gets the lines of each stream, each of them once and in order, and is done when
it has got them all. The lines of a run are those of one such handover.
-/
namespace WorkflowCompiler.Run

open Relation (ReflTransGen)

namespace Worker

/-- Left to itself a pump comes to offer a line or to close. -/
theorem exists_settled {worker : Worker} (held : worker.handles ≠ 0) :
    ∃ after, ReflTransGen Move worker after ∧ after.owed = worker.owed ∧ after.handles ≠ 0 ∧
      (after.stage = .closing ∨ after.offered ≠ none) := by
  induction bound : worker.load using Nat.strongRecOn generalizing worker with
  | ind bound ih =>
    rcases stage_of_handles held with reading | closing
    · cases offers : worker.offered with
      | some text => exact ⟨worker, .refl, rfl, held, .inr (by simp [offers])⟩
      | none =>
        obtain ⟨next, move⟩ := exists_move reading offers
        obtain ⟨after, moves, owed, holds, settled⟩ :=
          ih next.load (bound ▸ move.load_lt) (by simp [move.handles_eq.2]) rfl
        exact ⟨after, .head move moves, owed.trans move.owed_eq, holds, settled⟩
    · exact ⟨worker, .refl, rfl, held, .inl closing⟩

/-- A pump that owes lines comes to offer the first of them. -/
theorem exists_offering {worker : Worker} (held : worker.handles ≠ 0) {text : String}
    {rest : List String} (owes : worker.owed = text :: rest) :
    ∃ after, ReflTransGen Move worker after ∧ after.handles ≠ 0 ∧ after.offered = some text ∧
      after.sent.owed = rest := by
  obtain ⟨after, moves, owed, holds, settled⟩ := exists_settled held
  cases offers : after.offered with
  | none =>
    have closing : after.stage = .closing := settled.resolve_right (· offers)
    rw [owes] at owed
    simp [Worker.owed, offers, closing] at owed
  | some offered =>
    rw [owes, owed_eq_cons offers] at owed
    obtain ⟨rfl, rest⟩ := List.cons.inj owed
    exact ⟨after, moves, holds, offers, rest⟩

end Worker

namespace Handover

variable {capacity : Nat} {state : Handover} {sources : Stream → Source}

structure Running (state : Handover) : Prop where
  receiving : state.receiver = .receiving
  held : ∀ stream, (state.pumps stream).handles ≠ 0

/-- Nobody else is touched by what a pump does by itself. -/
theorem reached_of_moves {pumps : Stream → Worker} {receiver : Receiver} {handles count : Nat}
    {queue received : List Line} {stream : Stream} {after : Worker}
    (moves : ReflTransGen Worker.Move (pumps stream) after) :
    ReflTransGen (Step capacity) ⟨pumps, receiver, handles, queue, received, count⟩
      ⟨Function.update pumps stream after, receiver, handles, queue, received, count⟩ := by
  induction moves with
  | refl => rw [Function.update_eq_self]
  | @tail worker after _ move ih =>
    have step : Step capacity
        ⟨Function.update pumps stream worker, receiver, handles, queue, received, count⟩
        ⟨Function.update (Function.update pumps stream worker) stream after, receiver, handles,
          queue, received, count⟩ := .move (by simpa using move)
    rw [Function.update_idem] at step
    exact ih.tail step

theorem exists_running (capacity : Nat) (sources : Stream → Source) :
    ∃ state, ReflTransGen (Step capacity) (start sources) state ∧
      state.relay = (start sources).relay ∧ state.Running := by
  let waiting : Stream → Worker := fun stream => .ofSource (sources stream)
  let first := Function.update waiting .output (waiting .output).begin
  let both := Function.update first .errors (first .errors).begin
  have unchanged : (fun stream => (both stream).owed) = fun stream => (waiting stream).owed := by
    rw [owed_update_of_eq (Worker.owed_begin rfl), owed_update_of_eq (Worker.owed_begin rfl)]
  refine ⟨⟨both, .receiving, 2, [], [], 0⟩, ?_, ?_, rfl, fun stream => ?_⟩
  · exact .head (.start rfl) (.head (.start rfl) (.single .release))
  · exact congrArg (Relay.owing · [] []) unchanged
  · cases stream <;> exact Nat.one_ne_zero

/-- Whatever the relay may do next, a running handover comes to do. -/
theorem Running.exists_relay_step (running : state.Running) {next : Relay}
    (step : Relay.Step capacity state.relay next) :
    ∃ later, ReflTransGen (Step capacity) state later ∧ later.relay = next ∧ later.Running := by
  obtain ⟨pumps, receiver, handles, queue, received, count⟩ := state
  obtain ⟨rfl, held⟩ := running
  rcases step.owing_cases with ⟨stream, text, rest, owes, room, rfl⟩ | ⟨line, rest, same, rfl⟩
  · -- the pump has to read and cut before it can send the line that it owes
    obtain ⟨worker, moves, holds, offers, sent⟩ := Worker.exists_offering (held stream) owes
    have offers : (Function.update pumps stream worker stream).offered = some text := by
      simpa using offers
    refine ⟨_, (reached_of_moves moves).tail (.send offers room), ?_, rfl, fun other => ?_⟩
    · rw [Function.update_self, Function.update_idem]
      simp only [relay, owed_update, sent]
    · by_cases own : other = stream
      · subst own
        simpa [Worker.handles, Worker.sent] using holds
      · simpa [Function.update_of_ne own] using held other
  · dsimp only at same
    subst same
    exact ⟨_, .single .receive, rfl, rfl, held⟩

theorem Running.exists_relay_steps (running : state.Running) {last : Relay}
    (steps : Relay.Steps capacity state.relay last) :
    ∃ later, ReflTransGen (Step capacity) state later ∧ later.relay = last := by
  generalize same : state.relay = first at steps
  induction steps generalizing state with
  | refl => exact ⟨state, .refl, same⟩
  | step step _ ih =>
    subst same
    obtain ⟨middle, front, same, running⟩ := running.exists_relay_step step
    obtain ⟨later, back, shown⟩ := ih running same
    exact ⟨later, front.trans back, shown⟩

/-- However far it has come, a handover comes to an end. -/
theorem Sound.exists_done (sound : state.Sound) (room : 0 < capacity) :
    ∃ later, ReflTransGen (Step capacity) state later ∧ later.receiver = .done := by
  induction state using (wellFounded_step capacity).induction with
  | _ state ih =>
    by_cases done : state.receiver = .done
    · exact ⟨state, .refl, done⟩
    · obtain ⟨next, step⟩ := sound.exists_step room done
      obtain ⟨later, reached, done⟩ := ih next step (step.sound sound)
      exact ⟨later, .head step reached, done⟩

/-- What was handed on of a stream, what is in the queue and what its pump owes are its lines. -/
theorem textsOf_of_reached (reached : ReflTransGen (Step capacity) (start sources) state)
    (stream : Stream) :
    textsOf stream state.received ++ textsOf stream state.queue ++ (state.pumps stream).owed =
      linesUntil (sources stream).fault (sources stream).bytes := by
  have kept := Relay.textsOf_of_steps (relay_steps reached) stream
  simpa [start, Worker.ofSource, Worker.owed] using kept

/-- When the receiver is done it has got the lines of each stream. -/
theorem textsOf_of_done (reached : ReflTransGen (Step capacity) (start sources) state)
    (done : state.receiver = .done) (stream : Stream) :
    textsOf stream state.received = linesUntil (sources stream).fault (sources stream).bytes := by
  obtain ⟨empty, paid⟩ := (sound_of_reached reached (sound_start sources)).finished done
  simpa [empty, paid stream] using textsOf_of_reached reached stream

end Handover

def Child.source (child : Child) : Stream → Source
  | .output => child.output
  | .errors => child.errors

/-- What may come about while the lines of a child process are handed on. -/
def Reached (settings : Settings.Runner) (child : Child) (state : Handover) : Prop :=
  ReflTransGen (Handover.Step (queueLength settings.lineCapacity)) (.start child.source) state

theorem queueLength_pos (configured : Nat) : 0 < queueLength configured := by
  unfold queueLength
  omega

theorem follow_fst (capacity : Nat) (child : Child) :
    (follow capacity child).1 =
      relayed capacity ((pumpLines child.output).1.map (⟨.output, ·⟩))
        ((pumpLines child.errors).1.map (⟨.errors, ·⟩)) := by
  unfold follow
  generalize pumpLines child.output = output
  generalize pumpLines child.errors = errors
  obtain ⟨output, _ | _⟩ := output <;> obtain ⟨errors, _ | _⟩ := errors <;> rfl

theorem follow_snd {child : Child} (whole : ∀ stream, (child.source stream).fault = none)
    (capacity : Nat) : (follow capacity child).2 = .ok child.ending.status := by
  have output : child.output.fault = none := whole .output
  have errors : child.errors.fault = none := whole .errors
  simp [follow, pumpLines_eq, output, errors]

theorem runArtifact_of_launched {launch : Launcher} {files ready : Files.Tree}
    {settings : Settings.Runner} {artifact : Script.Artifact} {child : Child}
    (written : (files.set scratchLocation .directory).write
      (Files.join scratchDirectory artifact.fileName) artifact.source.toUTF8 = .ok ready)
    (launched : launch ready settings.interpreter
      (Files.join scratchDirectory artifact.fileName) = .ok child) :
    runArtifact launch files settings artifact =
      ⟨(follow (queueLength settings.lineCapacity) child).1,
        (follow (queueLength settings.lineCapacity) child).2,
        child.files.removeBelow scratchLocation⟩ := by
  simp only [runArtifact, written, launched]

theorem relay_start (child : Child) :
    (Handover.start child.source).relay =
      .start ((pumpLines child.output).1.map (⟨.output, ·⟩))
        ((pumpLines child.errors).1.map (⟨.errors, ·⟩)) := by
  simp [Handover.relay, Handover.start, Relay.owing, Relay.start, Worker.ofSource, Worker.owed,
    Child.source, pumpLines_eq]

/-- The lines that are followed are those of a handover that has come to its end. -/
theorem exists_followed (settings : Settings.Runner) (child : Child) :
    ∃ state, Reached settings child state ∧ state.receiver = .done ∧
      (follow (queueLength settings.lineCapacity) child).1 = state.received := by
  have room := queueLength_pos settings.lineCapacity
  obtain ⟨last, steps, finished, same⟩ := Relay.exists_relayed room
    ((pumpLines child.output).1.map (⟨.output, ·⟩)) ((pumpLines child.errors).1.map (⟨.errors, ·⟩))
  obtain ⟨running, begun, owing, runs⟩ :=
    Handover.exists_running (queueLength settings.lineCapacity) child.source
  rw [← relay_start, ← owing] at steps
  obtain ⟨later, onward, rfl⟩ := runs.exists_relay_steps steps
  have reached := begun.trans onward
  obtain ⟨state, ending, done⟩ :=
    (Handover.sound_of_reached reached (Handover.sound_start _)).exists_done room
  have kept : state.relay = later.relay := (Handover.relay_steps ending).eq_of_finished finished
  refine ⟨state, reached.trans ending, done, ?_⟩
  rw [follow_fst, ← same, ← kept]
  rfl

/-- However the reads cut the streams of a child process and whoever goes next, every line is
handed on. -/
structure HandsOn (settings : Settings.Runner) (child : Child) : Prop where
  /-- At any time the first lines of each stream have been handed on. -/
  ordered : ∀ state, Reached settings child state →
    ∀ stream, textsOf stream state.received <+: lineList (child.source stream).bytes
  /-- At the end the lines of each stream have. -/
  complete : ∀ state, Reached settings child state → state.receiver = .done →
    ∀ stream, textsOf stream state.received = lineList (child.source stream).bytes
  /-- They were counted. -/
  counted : ∀ state, Reached settings child state → state.receiver = .done →
    state.count = (lineList child.output.bytes).length + (lineList child.errors.bytes).length
  /-- Before the end something can be done. -/
  proceeds : ∀ state, Reached settings child state → state.receiver ≠ .done →
    ∃ next, Handover.Step (queueLength settings.lineCapacity) state next
  /-- The end comes. -/
  ends : WellFounded fun after before : Handover =>
    Handover.Step (queueLength settings.lineCapacity) before after
  /-- A run of an artifact hands on what such a handover does. -/
  run : ∀ launch files ready (artifact : Script.Artifact),
    (files.set scratchLocation .directory).write
      (Files.join scratchDirectory artifact.fileName) artifact.source.toUTF8 = .ok ready →
    launch ready settings.interpreter (Files.join scratchDirectory artifact.fileName) = .ok child →
    ∃ state, Reached settings child state ∧ state.receiver = .done ∧
      (runArtifact launch files settings artifact).lines = state.received ∧
      (runArtifact launch files settings artifact).lines.length = state.count ∧
      (runArtifact launch files settings artifact).result = .ok child.ending.status

/-- When both streams of a child process come to their end, every line is handed on. -/
theorem every_line_handed_on (settings : Settings.Runner) (child : Child)
    (whole : ∀ stream, (child.source stream).fault = none) : HandsOn settings child where
  ordered := by
    intro state reached stream
    have kept := Handover.textsOf_of_reached reached stream
    rw [whole, linesUntil_none, List.append_assoc] at kept
    exact ⟨_, kept⟩
  complete := by
    intro state reached done stream
    rw [Handover.textsOf_of_done reached done, whole, linesUntil_none]
  counted := by
    intro state reached done
    have sound := Handover.sound_of_reached reached (Handover.sound_start child.source)
    have output := Handover.textsOf_of_done reached done .output
    have errors := Handover.textsOf_of_done reached done .errors
    rw [whole, linesUntil_none] at output errors
    rw [sound.count, length_eq_add_textsOf, output, errors]
    rfl
  proceeds := by
    intro state reached unfinished
    have sound := Handover.sound_of_reached reached (Handover.sound_start child.source)
    exact sound.exists_step (queueLength_pos settings.lineCapacity) unfinished
  ends := Handover.wellFounded_step _
  run := by
    intro launch files ready artifact written launched
    obtain ⟨state, reached, done, same⟩ := exists_followed settings child
    have outcome := runArtifact_of_launched written launched
    have sound := Handover.sound_of_reached reached (Handover.sound_start child.source)
    refine ⟨state, reached, done, ?_, ?_, ?_⟩
    · rw [outcome, same]
    · rw [outcome, same, sound.count]
    · rw [outcome, follow_snd whole]

/-- What a child says on two lines, cut in the middle of a line break, and on a third line. -/
private def spoken : Child where
  output := ⟨["first\r".toUTF8.toList, "\nsecond".toUTF8.toList], none⟩
  errors := ⟨["third\n".toUTF8.toList], none⟩
  ending := .exited 3
  files := ⟨[], []⟩

theorem every_line_handed_on_spoken :
    (∀ stream, (spoken.source stream).fault = none) ∧
      HandsOn { lineCapacity := 0 } spoken ∧
      lineList spoken.output.bytes = ["first", "second"] ∧
      lineList spoken.errors.bytes = ["third"] := by
  have whole : ∀ stream, (spoken.source stream).fault = none := by
    intro stream
    cases stream <;> rfl
  exact ⟨whole, every_line_handed_on _ _ whole, by decide +kernel, by decide +kernel⟩

end WorkflowCompiler.Run
