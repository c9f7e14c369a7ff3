import Mathlib.Logic.Function.Basic
import Mathlib.Logic.Relation
import WorkflowCompiler.Proofs.Run.Lines
import WorkflowCompiler.Proofs.Run.Relay
import WorkflowCompiler.Run.LocalRun

/-!
Handovers. Two pumps read the streams of a child process, cut lines and send them over one queue
of bounded length; a receiver starts the pumps, gives up its own sending handle, and takes lines
until the queue is empty and all handles are given up. Reads take as many bytes as they like and
who goes next is not determined. A handover does what a relay does, it cannot stop before the
receiver is done, and it cannot go on for ever.
-/
namespace WorkflowCompiler.Run

open Relation (ReflTransGen)

inductive Stage
  | waiting
  | reading
  /-- Its stream is over, its last line may still have to be sent. -/
  | closing
  /-- Its sending handle is given up. -/
  | gone
  deriving DecidableEq

structure Worker where
  stage : Stage
  /-- What its stream has still to give. -/
  unread : List UInt8
  fault : Option String
  /-- What was read and is not cut yet. -/
  buffer : List UInt8
  /-- The line that was cut and waits for room in the queue. -/
  offered : Option String

namespace Worker

/-- What a pump does by itself. It reads again when there is no line feed left to cut at. -/
inductive Move : Worker → Worker → Prop
  | read {chunk unread buffer : List UInt8} {fault : Option String} :
      10 ∉ buffer → chunk ≠ [] →
      Move ⟨.reading, chunk ++ unread, fault, buffer, none⟩
        ⟨.reading, unread, fault, buffer ++ chunk, none⟩
  | cut {line unread buffer : List UInt8} {fault : Option String} :
      10 ∉ line →
      Move ⟨.reading, unread, fault, line ++ 10 :: buffer, none⟩
        ⟨.reading, unread, fault, buffer, some (lineText line)⟩
  | finish {buffer : List UInt8} :
      10 ∉ buffer →
      Move ⟨.reading, [], none, buffer, none⟩ ⟨.closing, [], none, [], lastLine buffer⟩
  | fail {buffer : List UInt8} {detail : String} :
      10 ∉ buffer →
      Move ⟨.reading, [], some detail, buffer, none⟩ ⟨.closing, [], some detail, [], none⟩

def ofSource (source : Source) : Worker := ⟨.waiting, source.bytes, source.fault, [], none⟩

def begin (worker : Worker) : Worker := { worker with stage := .reading }

def sent (worker : Worker) : Worker := { worker with offered := none }

def close (worker : Worker) : Worker := { worker with stage := .gone }

def owed (worker : Worker) : List String :=
  worker.offered.toList ++
    match worker.stage with
    | .waiting | .reading => linesUntil worker.fault (worker.buffer ++ worker.unread)
    | .closing | .gone => []

def handles (worker : Worker) : Nat :=
  match worker.stage with
  | .reading | .closing => 1
  | .waiting | .gone => 0

/-- A bound on what a pump has still to do. -/
def load (worker : Worker) : Nat :=
  4 * worker.unread.length + 3 * worker.buffer.length + 2 * worker.offered.toList.length +
    match worker.stage with
    | .waiting => 3
    | .reading => 2
    | .closing => 1
    | .gone => 0

variable {worker after : Worker} {text : String}

section

variable (waits : worker.stage = .waiting)
include waits

theorem owed_begin : worker.begin.owed = worker.owed := by simp [owed, begin, waits]

theorem handles_begin : worker.handles = 0 ∧ worker.begin.handles = 1 := by
  simp [handles, begin, waits]

theorem load_begin : worker.load = worker.begin.load + 1 := by
  simp [load, begin, waits]

end

section

variable (offers : worker.offered = some text)
include offers

theorem owed_eq_cons : worker.owed = text :: worker.sent.owed := by simp [owed, sent, offers]

theorem load_sent : worker.load = worker.sent.load + 2 := by
  simp [load, sent, offers]
  omega

end

section

variable (closing : worker.stage = .closing)
include closing

theorem owed_close : worker.close.owed = worker.owed := by simp [owed, close, closing]

theorem handles_close : worker.handles = 1 ∧ worker.close.handles = 0 := by
  simp [handles, close, closing]

theorem load_close : worker.load = worker.close.load + 1 := by
  simp [load, close, closing]

end

theorem Move.owed_eq (move : Move worker after) : after.owed = worker.owed := by
  cases move with
  | read => simp [owed]
  | cut noFeed => simp [owed, linesUntil_append_feed noFeed]
  | finish noFeed => simp [owed, linesUntil_of_notMem noFeed]
  | fail noFeed => simp [owed, linesUntil_of_notMem noFeed]

theorem Move.handles_eq (move : Move worker after) : worker.handles = 1 ∧ after.handles = 1 := by
  cases move <;> exact ⟨rfl, rfl⟩

theorem length_lastLine_le (rest : List UInt8) : (lastLine rest).toList.length ≤ rest.length := by
  cases rest with
  | nil => simp [lastLine, withoutReturn]
  | cons byte rest => unfold lastLine; split <;> simp

theorem Move.load_lt (move : Move worker after) : after.load < worker.load := by
  cases move with
  | @read chunk =>
    have some : 0 < chunk.length := by grind
    simp [load]
    omega
  | cut => simp [load]; omega
  | @finish buffer =>
    have short := length_lastLine_le buffer
    simp only [load, List.length_nil, Option.toList_none]
    omega
  | fail => simp [load]

/-- A reading pump that offers nothing can go on. -/
theorem exists_move (reading : worker.stage = .reading) (silent : worker.offered = none) :
    ∃ after, Move worker after := by
  obtain ⟨stage, unread, fault, buffer, offered⟩ := worker
  obtain rfl : stage = .reading := reading
  obtain rfl : offered = none := silent
  by_cases feed : 10 ∈ buffer
  · obtain ⟨line, rest, rfl, noFeed⟩ := List.eq_append_cons_of_mem feed
    exact ⟨_, .cut noFeed⟩
  · cases unread with
    | cons byte unread => exact ⟨_, .read feed (List.cons_ne_nil byte [])⟩
    | nil =>
      cases fault with
      | none => exact ⟨_, .finish feed⟩
      | some detail => exact ⟨_, .fail feed⟩

theorem ne_waiting_of_handles (held : worker.handles ≠ 0) : worker.stage ≠ .waiting := by
  intro waits
  exact held (by simp [handles, waits])

theorem stage_of_handles (held : worker.handles ≠ 0) :
    worker.stage = .reading ∨ worker.stage = .closing := by
  unfold handles at held
  split at held <;> simp_all

end Worker

inductive Receiver
  | starting (pumps : List Stream)
  | receiving
  | done

namespace Receiver

def unstarted : Receiver → List Stream
  | starting pumps => pumps
  | receiving | done => []

/-- The receiver has a sending handle of its own until the pumps are started. -/
def handles : Receiver → Nat
  | starting _ => 1
  | receiving | done => 0

def load : Receiver → Nat
  | starting pumps => pumps.length + 2
  | receiving => 1
  | done => 0

end Receiver

structure Handover where
  pumps : Stream → Worker
  receiver : Receiver
  /-- How many sending handles there are. -/
  handles : Nat
  queue : List Line
  /-- The lines that were handed on. -/
  received : List Line
  /-- How many lines the receiver has counted. It is the number of lines in `received`, each of which
  has gone through the queue, so 64 bits are more than any run can use up. -/
  count : Nat

namespace Handover

inductive Step (capacity : Nat) : Handover → Handover → Prop
  | start {pumps : Stream → Worker} {stream : Stream} {others : List Stream} {handles count : Nat}
      {queue received : List Line} :
      (pumps stream).stage = .waiting →
      Step capacity ⟨pumps, .starting (stream :: others), handles, queue, received, count⟩
        ⟨Function.update pumps stream (pumps stream).begin,
          .starting others, handles + 1, queue, received, count⟩
  | release {pumps : Stream → Worker} {handles count : Nat} {queue received : List Line} :
      Step capacity ⟨pumps, .starting [], handles, queue, received, count⟩
        ⟨pumps, .receiving, handles - 1, queue, received, count⟩
  | move {pumps : Stream → Worker} {receiver : Receiver} {handles count : Nat}
      {queue received : List Line} {stream : Stream} {worker : Worker} :
      (pumps stream).Move worker →
      Step capacity ⟨pumps, receiver, handles, queue, received, count⟩
        ⟨Function.update pumps stream worker, receiver, handles, queue, received, count⟩
  | send {pumps : Stream → Worker} {receiver : Receiver} {handles count : Nat}
      {queue received : List Line} {stream : Stream} {text : String} :
      (pumps stream).offered = some text → queue.length < capacity →
      Step capacity ⟨pumps, receiver, handles, queue, received, count⟩
        ⟨Function.update pumps stream (pumps stream).sent,
          receiver, handles, queue ++ [⟨stream, text⟩], received, count⟩
  | close {pumps : Stream → Worker} {receiver : Receiver} {handles count : Nat}
      {queue received : List Line} {stream : Stream} :
      (pumps stream).stage = .closing → (pumps stream).offered = none →
      Step capacity ⟨pumps, receiver, handles, queue, received, count⟩
        ⟨Function.update pumps stream (pumps stream).close,
          receiver, handles - 1, queue, received, count⟩
  | receive {pumps : Stream → Worker} {handles count : Nat} {line : Line}
      {queue received : List Line} :
      Step capacity ⟨pumps, .receiving, handles, line :: queue, received, count⟩
        ⟨pumps, .receiving, handles, queue, received ++ [line], count + 1⟩
  | leave {pumps : Stream → Worker} {received : List Line} {count : Nat} :
      Step capacity ⟨pumps, .receiving, 0, [], received, count⟩
        ⟨pumps, .done, 0, [], received, count⟩

/-- Before any pump is started there is one sending handle, the receiver's. -/
def start (sources : Stream → Source) : Handover :=
  ⟨fun stream => .ofSource (sources stream), .starting [.output, .errors], 1, [], [], 0⟩

def total (number : Worker → Nat) (pumps : Stream → Worker) : Nat :=
  number (pumps .output) + number (pumps .errors)

theorem total_update (number : Worker → Nat) (pumps : Stream → Worker) (stream : Stream)
    (worker : Worker) :
    total number (Function.update pumps stream worker) + number (pumps stream) =
      total number pumps + number worker := by
  cases stream <;> simp [total] <;> omega

theorem le_total (number : Worker → Nat) (pumps : Stream → Worker) (stream : Stream) :
    number (pumps stream) ≤ total number pumps := by
  cases stream <;> simp [total]

/-- A bound on how long a handover can go on. -/
def load (state : Handover) : Nat :=
  total Worker.load state.pumps + state.receiver.load + state.queue.length

structure Sound (state : Handover) : Prop where
  /-- Handles are counted. -/
  handles : state.handles = state.receiver.handles + total Worker.handles state.pumps
  /-- The pumps that wait are those that are to be started. -/
  waiting : ∀ stream, (state.pumps stream).stage = .waiting ↔ stream ∈ state.receiver.unstarted
  once : state.receiver.unstarted.Nodup
  /-- Who has no handle has nothing to send. -/
  silent : ∀ stream, (state.pumps stream).handles = 0 → (state.pumps stream).offered = none
  count : state.count = state.received.length
  /-- The receiver is done only when nothing can come any more. -/
  ended : state.receiver = .done → state.handles = 0 ∧ state.queue = []

/-- A handover as a relay of the lines that the pumps owe. -/
def relay (state : Handover) : Relay :=
  .owing (fun stream => (state.pumps stream).owed) state.queue state.received

variable {capacity : Nat} {before after state : Handover}

theorem Step.load_lt (step : Step capacity before after) : after.load < before.load := by
  cases step with
  | @start pumps stream others handles count queue received waits =>
    have changed := total_update Worker.load pumps stream (pumps stream).begin
    have less := Worker.load_begin waits
    simp only [load, Receiver.load, List.length_cons]
    omega
  | release => simp [load, Receiver.load]
  | @move pumps receiver handles count queue received stream worker move =>
    have changed := total_update Worker.load pumps stream worker
    have less := move.load_lt
    simp only [load]
    omega
  | @send pumps receiver handles count queue received stream text offers =>
    have changed := total_update Worker.load pumps stream (pumps stream).sent
    have less := Worker.load_sent offers
    simp only [load, List.length_append, List.length_singleton]
    omega
  | @close pumps receiver handles count queue received stream closing =>
    have changed := total_update Worker.load pumps stream (pumps stream).close
    have less := Worker.load_close closing
    simp only [load]
    omega
  | receive => simp [load]
  | leave => simp [load, Receiver.load]

theorem owed_update (pumps : Stream → Worker) (stream : Stream) (worker : Worker) :
    (fun other => (Function.update pumps stream worker other).owed) =
      Function.update (fun other => (pumps other).owed) stream worker.owed :=
  funext fun other => Function.apply_update (fun _ => Worker.owed) pumps stream worker other

/-- A pump that owes what it owed changes nothing. -/
theorem owed_update_of_eq {pumps : Stream → Worker} {stream : Stream} {worker : Worker}
    (same : worker.owed = (pumps stream).owed) :
    (fun other => (Function.update pumps stream worker other).owed) =
      fun other => (pumps other).owed := by
  rw [owed_update, same]
  exact Function.update_eq_self stream _

/-- A step of a handover is a step of the relay, or the relay does not notice it. -/
theorem Step.relay_step (step : Step capacity before after) :
    after.relay = before.relay ∨ Relay.Step capacity before.relay after.relay := by
  cases step with
  | start waits => exact .inl (by simp only [relay, owed_update_of_eq (Worker.owed_begin waits)])
  | release => exact .inl rfl
  | move move => exact .inl (by simp only [relay, owed_update_of_eq move.owed_eq])
  | send offers room =>
    refine .inr ?_
    simp only [relay, owed_update]
    exact Relay.step_owing (Worker.owed_eq_cons offers) room
  | close closing =>
    exact .inl (by simp only [relay, owed_update_of_eq (Worker.owed_close closing)])
  | receive => exact .inr .receive
  | leave => exact .inl rfl

theorem relay_steps (reached : ReflTransGen (Step capacity) before after) :
    Relay.Steps capacity before.relay after.relay := by
  induction reached using ReflTransGen.head_induction_on with
  | refl => exact .refl _
  | head step _ ih =>
    rcases step.relay_step with same | step
    · rwa [← same]
    · exact .step step ih

theorem sound_start (sources : Stream → Source) : (start sources).Sound where
  handles := rfl
  waiting := by
    intro stream
    cases stream <;> simp [start, Worker.ofSource, Receiver.unstarted]
  once := by simp [start, Receiver.unstarted]
  silent := fun _ _ => rfl
  count := rfl
  ended := nofun

/-- A pump with a handle changes. -/
theorem Sound.update {pumps : Stream → Worker} {receiver : Receiver} {handles handles' count : Nat}
    {queue queue' received : List Line} {stream : Stream} {worker : Worker}
    (sound : Sound ⟨pumps, receiver, handles, queue, received, count⟩)
    (held : (pumps stream).handles ≠ 0) (started : worker.stage ≠ .waiting)
    (silent : worker.handles = 0 → worker.offered = none)
    (counted : handles' + (pumps stream).handles = handles + worker.handles) :
    Sound ⟨Function.update pumps stream worker, receiver, handles', queue', received, count⟩ := by
  obtain ⟨balance, waiting, once, quiet, same, ended⟩ := sound
  dsimp only at balance
  have changed := total_update Worker.handles pumps stream worker
  have part := le_total Worker.handles pumps stream
  refine ⟨by dsimp only; omega, fun other => ?_, once, fun other => ?_, same, fun done => ?_⟩
  · by_cases own : other = stream
    · subst own
      simp only [Function.update_self, started, false_iff]
      exact fun listed => Worker.ne_waiting_of_handles held ((waiting other).mpr listed)
    · simpa only [Function.update_of_ne own] using waiting other
  · by_cases own : other = stream
    · subst own
      simpa only [Function.update_self] using silent
    · simpa only [Function.update_of_ne own] using quiet other
  · -- the receiver is not done while this pump has a handle
    have none := (ended done).1
    dsimp only at none
    omega

/-- What a step keeps. -/
theorem Step.sound (step : Step capacity before after) (sound : before.Sound) : after.Sound := by
  cases step with
  | @start pumps stream others handles count queue received waits =>
    obtain ⟨balance, waiting, once, quiet, same, ended⟩ := sound
    obtain ⟨fresh, once⟩ := List.nodup_cons.mp once
    have changed := total_update Worker.handles pumps stream (pumps stream).begin
    obtain ⟨none, one⟩ := Worker.handles_begin waits
    simp only [Receiver.handles] at balance
    refine ⟨by simp only [Receiver.handles]; omega, fun other => ?_, once, fun other => ?_, same,
      nofun⟩
    · by_cases own : other = stream
      · subst own
        simpa [Worker.begin, Receiver.unstarted] using fresh
      · simpa [Function.update_of_ne own, Receiver.unstarted, own] using waiting other
    · by_cases own : other = stream
      · subst own
        simp [one]
      · simpa only [Function.update_of_ne own] using quiet other
  | release =>
    obtain ⟨balance, waiting, once, quiet, same, ended⟩ := sound
    simp only [Receiver.handles] at balance
    exact ⟨by simp only [Receiver.handles]; omega, waiting, once, quiet, same, nofun⟩
  | move move =>
    obtain ⟨held, holds⟩ := move.handles_eq
    exact sound.update (by omega) (Worker.ne_waiting_of_handles (by omega)) (by omega) (by omega)
  | @send pumps receiver handles count queue received stream text offers =>
    have held : (pumps stream).handles ≠ 0 := by
      intro none
      simpa [offers] using sound.silent stream none
    exact sound.update held (Worker.ne_waiting_of_handles held) (fun _ => rfl) rfl
  | @close pumps receiver handles count queue received stream closing silent =>
    obtain ⟨held, none⟩ := Worker.handles_close closing
    have positive : 0 < handles := by
      have balance := sound.handles
      have part := le_total Worker.handles pumps stream
      dsimp only at balance
      omega
    exact sound.update (by omega) (by simp [Worker.close]) (fun _ => silent) (by omega)
  | receive =>
    obtain ⟨balance, waiting, once, quiet, same, ended⟩ := sound
    exact ⟨balance, waiting, once, quiet, by simpa using same, nofun⟩
  | leave =>
    obtain ⟨balance, waiting, once, quiet, same, ended⟩ := sound
    exact ⟨balance, waiting, once, quiet, same, fun _ => ⟨rfl, rfl⟩⟩

theorem sound_of_reached (reached : ReflTransGen (Step capacity) before after)
    (sound : before.Sound) : after.Sound := by
  induction reached with
  | refl => exact sound
  | tail _ step ih => exact step.sound ih

/-- A handover whose receiver is not done can go on. -/
theorem Sound.exists_step (sound : state.Sound) (room : 0 < capacity)
    (unfinished : state.receiver ≠ .done) : ∃ next, Step capacity state next := by
  obtain ⟨pumps, receiver, handles, queue, received, count⟩ := state
  obtain ⟨balance, waiting, once, quiet, same, ended⟩ := sound
  cases receiver with
  | starting streams =>
    cases streams with
    | nil => exact ⟨_, .release⟩
    | cons stream others => exact ⟨_, .start ((waiting stream).mpr List.mem_cons_self)⟩
  | done => exact absurd rfl unfinished
  | receiving =>
    rcases queue with _ | ⟨line, queue⟩
    · by_cases held : ∃ stream, (pumps stream).handles ≠ 0
      · obtain ⟨stream, held⟩ := held
        cases offers : (pumps stream).offered with
        | some text => exact ⟨_, .send offers room⟩
        | none =>
          rcases Worker.stage_of_handles held with reading | closing
          · obtain ⟨worker, move⟩ := Worker.exists_move reading offers
            exact ⟨_, .move move⟩
          · exact ⟨_, .close closing offers⟩
      · -- nobody has a handle, and nothing is in the queue
        have none : handles = 0 := by
          simp only [not_exists, not_not] at held
          simpa [total, held, Receiver.handles] using balance
        subst none
        exact ⟨_, .leave⟩
    · exact ⟨_, .receive⟩

/-- When the receiver is done no pump owes a line. -/
theorem Sound.finished (sound : state.Sound) (done : state.receiver = .done) :
    state.queue = [] ∧ ∀ stream, (state.pumps stream).owed = [] := by
  obtain ⟨none, empty⟩ := sound.ended done
  refine ⟨empty, fun stream => ?_⟩
  have free : (state.pumps stream).handles = 0 := by
    have balance := sound.handles
    have part := le_total Worker.handles state.pumps stream
    omega
  have started : (state.pumps stream).stage ≠ .waiting := by
    rw [ne_eq, sound.waiting stream, done]
    exact List.not_mem_nil
  have gone : (state.pumps stream).stage = .gone := by
    unfold Worker.handles at free
    split at free <;> simp_all
  simp [Worker.owed, sound.silent stream free, gone]

/-- No handover goes on for ever. -/
theorem wellFounded_step (capacity : Nat) :
    WellFounded fun after before : Handover => Step capacity before after :=
  Subrelation.wf (fun step => Step.load_lt step) (measure load).wf

end Handover

end WorkflowCompiler.Run
