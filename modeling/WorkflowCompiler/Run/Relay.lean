import WorkflowCompiler.Run.Pump

/-!
Relays: two pumps send their lines over one queue of bounded length, and a receiver takes them
from it. Who goes next is not determined, except that nobody sends when the queue is full.
-/
namespace WorkflowCompiler.Run

/-- A line of a stream. -/
structure Line where
  stream : Stream
  text : String
  deriving DecidableEq, Repr

structure Relay where
  /-- What the first pump has still to send. -/
  output : List Line
  /-- What the second pump has still to send. -/
  errors : List Line
  queue : List Line
  received : List Line

namespace Relay

inductive Step (capacity : Nat) : Relay → Relay → Prop
  | sendOutput {line : Line} {output errors queue received : List Line} :
      queue.length < capacity →
      Step capacity ⟨line :: output, errors, queue, received⟩
        ⟨output, errors, queue ++ [line], received⟩
  | sendErrors {line : Line} {output errors queue received : List Line} :
      queue.length < capacity →
      Step capacity ⟨output, line :: errors, queue, received⟩
        ⟨output, errors, queue ++ [line], received⟩
  | receive {line : Line} {output errors queue received : List Line} :
      Step capacity ⟨output, errors, line :: queue, received⟩
        ⟨output, errors, queue, received ++ [line]⟩

inductive Steps (capacity : Nat) : Relay → Relay → Prop
  | refl (relay : Relay) : Steps capacity relay relay
  | step {first second last : Relay} :
      Step capacity first second → Steps capacity second last → Steps capacity first last

def start (output errors : List Line) : Relay := ⟨output, errors, [], []⟩

/-- Nothing is left to send or to receive. -/
def Finished (relay : Relay) : Prop :=
  relay.output = [] ∧ relay.errors = [] ∧ relay.queue = []

/-- One choice of what happens next: send while there is room, the first pump before the second,
and receive otherwise. -/
def next (capacity : Nat) (relay : Relay) : Relay :=
  if relay.queue.length < capacity then
    match relay with
    | ⟨line :: output, errors, queue, received⟩ => ⟨output, errors, queue ++ [line], received⟩
    | ⟨[], line :: errors, queue, received⟩ => ⟨[], errors, queue ++ [line], received⟩
    | ⟨[], [], line :: queue, received⟩ => ⟨[], [], queue, received ++ [line]⟩
    | ⟨[], [], [], received⟩ => ⟨[], [], [], received⟩
  else
    match relay with
    | ⟨output, errors, line :: queue, received⟩ => ⟨output, errors, queue, received ++ [line]⟩
    | ⟨output, errors, [], received⟩ => ⟨output, errors, [], received⟩

def run (capacity : Nat) : Nat → Relay → Relay
  | 0, relay => relay
  | steps + 1, relay => run capacity steps (relay.next capacity)

end Relay

/-- How many lines the queue holds; there is always room for one. -/
def queueLength (configured : Nat) : Nat := max configured 1

/-- The lines as they are received; each is sent and received once. -/
def relayed (capacity : Nat) (output errors : List Line) : List Line :=
  ((Relay.start output errors).run capacity (2 * (output.length + errors.length))).received

end WorkflowCompiler.Run
