import ArchDiagram.Event.Emitter
import ArchDiagram.Failure
import ArchDiagram.Prompt.Request
import ArchDiagram.Verdict.Basic

/-!
# A run and the world around it

A run asks four collaborators: the repository's host for a snapshot, the provider for a token count
and for texts, and the checker for a verdict.  They are described by what they answer, given a state
of their own, so that a run is a function.  What the run does is recorded step by step, together
with the answers it gets, and a listener, who decides from the steps so far whether it is still
there, receives its events.  Nothing is emitted after a terminal event.

* `Team`: the four collaborators.
* `Run`: computations of a run, which may halt early.
* `emit`, `ask`, `pause`: the steps a run is made of.
-/

namespace ArchDiagram

/-- What a collaborator answers: a value, a failure, or it breaks down. -/
inductive Answer (ε α : Type) where
  | ok (a : α)
  | error (e : ε)
  | panic
  deriving DecidableEq

inductive Ending where
  | finished
  | failed (e : ProviderError)
  | panicked
  /-- It stays open and nothing more comes. -/
  | stalled
  deriving DecidableEq

/-- A stream of text: its increments and its end. -/
structure TextStream where
  increments : List String
  ending : Ending
  deriving DecidableEq

/-- The collaborators of a run, with a state of type `σ`. -/
structure Team (σ : Type) where
  /-- The snapshot of a repository, for an owner, a repository and a credential. -/
  fetch : String → String → Option String → σ → Answer SnapshotError Snapshot × σ
  /-- The number of tokens that a request reads. -/
  count : TextRequest → σ → Answer ProviderError Nat × σ
  /-- The text that a request asks for. -/
  generate : TextRequest → σ → Answer ProviderError TextStream × σ
  /-- The verdict on a diagram. -/
  check : String → σ → Answer Empty Verdict × σ

/-- Something that a run does: it asks a collaborator and gets an answer, waits, or emits an
event. -/
inductive Step where
  | fetch (owner repo : String) (credential : Option String)
    (answer : Answer SnapshotError Snapshot)
  | count (r : TextRequest) (answer : Answer ProviderError Nat)
  | generate (r : TextRequest) (answer : Answer ProviderError TextStream)
  | check (diagram : String) (answer : Answer Empty Verdict)
  | pause (d : Duration)
  | emit (e : Event)
  deriving DecidableEq

def Step.event? : Step → Option Event
  | emit e => some e
  | _ => none

def Step.isTerminal (s : Step) : Bool :=
  s.event?.any Event.isTerminal

/-- The steps of a run so far, the last one first. -/
abbrev History := List Step

/-- Whether a terminal event has been emitted. -/
def History.isOver (h : History) : Bool :=
  h.any Step.isTerminal

/-- Whoever listens to a run, by the moments at which it is there. -/
abbrev Listener := History → Bool

def Listener.loyal : Listener := fun _ => true

/-- What becomes of an event that is emitted after some steps. -/
def Listener.offer (l : Listener) (h : History) (e : Event) : Emission :=
  if h.isOver then .afterTerminal e.status
  else if l h then .accepted
  else .disconnected

def Emission.failure? (m : Emission) : Option Failure :=
  if m = .disconnected then some .disconnected else m.refusal?.map .internal

/-- The state of the collaborators and the steps so far. -/
structure World (σ : Type) where
  state : σ
  history : History

/-- Why a run halts before it is done. -/
inductive Halt where
  | failed (f : Failure)
  | panicked
  /-- It waits for a text that never comes. -/
  | stalled
  deriving DecidableEq

def Run (σ α : Type) : Type :=
  World σ → Except Halt α × World σ

namespace Run

variable {σ α β ε : Type}

def pure (a : α) : Run σ α := fun w => (.ok a, w)

def halt (h : Halt) : Run σ α := fun w => (.error h, w)

/-- One computation after another; what halts is not continued. -/
def bind (m : Run σ α) (f : α → Run σ β) : Run σ β := fun w =>
  match m w with
  | (.ok a, w') => f a w'
  | (.error h, w') => (.error h, w')

instance : Monad (Run σ) where
  pure := pure
  bind := bind

def fail (f : Failure) : Run σ α :=
  halt (.failed f)

def note (s : Step) : Run σ Unit := fun w =>
  (.ok (), { w with history := s :: w.history })

/-- Emits an event.  A run whose listener is gone halts. -/
def emit (l : Listener) (e : Event) : Run σ Unit := fun w =>
  match (l.offer w.history e).failure? with
  | none => note (.emit e) w
  | some f => fail f w

/-- The longest time that a run waits at once: thirty years of 365 days. -/
def longestPause : Duration :=
  .seconds (30 * 365 * 86400)

/-- Waits, unless there is nothing to wait for, and never longer than `longestPause`. -/
def pause (d : Duration) : Run σ Unit :=
  if d.nanoseconds = 0 then pure ()
  else note (.pause ⟨min d.nanoseconds longestPause.nanoseconds⟩)

/-- Asks a collaborator and takes its answer, be it a failure. -/
def consult (step : Answer ε α → Step) (question : σ → Answer ε α × σ) :
    Run σ (Except ε α) := fun w =>
  let (answer, state) := question w.state
  let w' : World σ := ⟨state, step answer :: w.history⟩
  match answer with
  | .ok a => (.ok (.ok a), w')
  | .error e => (.ok (.error e), w')
  | .panic => (.error .panicked, w')

/-- Asks a collaborator; its failure is the run's. -/
def ask (step : Answer ε α → Step) (question : σ → Answer ε α × σ) (failure : ε → Failure) :
    Run σ α := do
  match ← consult step question with
  | .ok a => pure a
  | .error e => fail (failure e)

end Run

end ArchDiagram
