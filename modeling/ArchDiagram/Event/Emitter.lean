import ArchDiagram.Event.Basic

/-!
# The emitter and its channel

Events pass through a channel that holds a bounded number of them.  The receiver may refuse new
events and still read those that are buffered, or go away and lose them.  The emitter lets nothing
pass after a terminal event, and only an accepted terminal event counts.

* `Emitter.emit`: offers an event.
* `Emitter.receive`, `Emitter.close`, `Emitter.leave`: what the receiver does.
-/

namespace ArchDiagram

/-- What the receiver of a channel is prepared to do. -/
inductive Receiver where
  | listening
  /-- It takes no new events and reads those that are buffered. -/
  | closed
  /-- It is gone, and the buffer with it. -/
  | gone
  deriving DecidableEq

inductive Emission where
  | accepted
  /-- The buffer is full; the emitter would have to wait. -/
  | full
  | disconnected
  /-- A terminal event has been accepted before; the status of the refused event. -/
  | afterTerminal (status : String)
  deriving DecidableEq

/-- The wording of a refusal, none where nothing is refused. -/
def Emission.refusal? : Emission → Option String
  | .accepted | .full => none
  | .disconnected => some "event consumer disconnected"
  | .afterTerminal status => some ("event emitted after terminal event: " ++ status)

inductive Reception where
  | event (e : Event)
  | empty
  | gone
  deriving DecidableEq

structure Emitter where
  capacity : Nat
  /-- Events that wait for the receiver, the oldest first. -/
  buffer : List Event
  receiver : Receiver
  /-- Whether a terminal event has been accepted. -/
  terminated : Bool

namespace Emitter

/-- A new channel; it holds at least one event. -/
def ofCapacity (n : Nat) : Emitter :=
  ⟨max n 1, [], .listening, false⟩

def isClosed (m : Emitter) : Bool :=
  m.receiver ≠ .listening

def emit (m : Emitter) (e : Event) : Emission × Emitter :=
  if m.terminated then (.afterTerminal e.status, m)
  else if m.isClosed then (.disconnected, m)
  else if m.capacity ≤ m.buffer.length then (.full, m)
  else (.accepted, { m with buffer := m.buffer ++ [e], terminated := e.isTerminal })

def receive (m : Emitter) : Reception × Emitter :=
  if m.receiver = .gone then (.gone, m)
  else
    match m.buffer with
    | [] => (.empty, m)
    | e :: es => (.event e, { m with buffer := es })

/-- The receiver takes no new events. -/
def close (m : Emitter) : Emitter :=
  if m.receiver = .listening then { m with receiver := .closed } else m

def leave (m : Emitter) : Emitter :=
  { m with receiver := .gone, buffer := [] }

end Emitter

end ArchDiagram
