import ArchDiagram.Diagram.Link
import ArchDiagram.Diagram.Mapping
import ArchDiagram.Run.Repair
import ArchDiagram.Run.Request

/-!
# Runs

A run fetches a snapshot, measures it, passes the gate, goes through the three stages, has the
diagram checked and repaired, and links it to the repository.  Whatever happens, it reports one
terminal event at the end, unless its listener has gone.

* `Run.diagram`: the steps up to the terminal event.
* `execute`: a whole run.
* `Run.quote`: a quote, which only fetches and measures.
-/

namespace ArchDiagram

namespace Run

variable {σ : Type}

def fetch (p : Setting σ) (r : DiagramRequest) : Run σ Snapshot :=
  ask (.fetch r.owner r.repo r.hostToken) (p.team.fetch r.owner r.repo r.hostToken) .snapshot

/-- The number of tokens that the first stage reads.  Where the provider gives no count, it is
estimated from the number of characters. -/
def measure (p : Setting σ) (s : Snapshot) (apiKey : Option String) : Run σ Nat := do
  let r := explanationRequest p.model s apiKey
  match ← consult (.count r) (p.team.count r) with
  | .ok n => pure n
  | .error _ => pure (Gate.estimateOf (s.fileTree ++ "\n" ++ s.readme))

/-- The stages of a run, and the repair and the links of the diagram they make. -/
def make (p : Setting σ) (l : Listener) (r : DiagramRequest) (s : Snapshot) : Run σ Event := do
  let explanation ← runStage p l .explanation s.sections r.apiKey
  let answer ← runStage p l .mapping
    [⟨"explanation", explanation⟩, ⟨"file_tree", s.fileTree⟩] r.apiKey
  let mapping := Diagram.mappingOf answer
  let drawing ← runStage p l .diagram
    [⟨"explanation", explanation⟩, ⟨"component_mapping", mapping⟩] r.apiKey
  let valid ← ensureValid p l r.apiKey ⟨explanation, mapping⟩ (Diagram.stripFences drawing)
  let linked := Diagram.linkPaths ⟨r.owner, r.repo, s.branch⟩ valid
  pure (.complete linked explanation mapping)

def startedEvent : Event :=
  .started "Starting generation process..."

/-- A run up to its terminal event. -/
def diagram (p : Setting σ) (l : Listener) (r : DiagramRequest) : Run σ Event := do
  let snapshot ← fetch p r
  let estimate ← measure p snapshot r.apiKey
  emit l startedEvent
  match Gate.decide p.policy estimate r.apiKey.isSome with
  | some rejection => fail (.rejected rejection)
  | none => make p l r snapshot

def quote (p : Setting σ) (r : DiagramRequest) : Run σ Quote :=
  match r.fault? with
  | some reason => fail (.invalidRequest reason)
  | none => do
    let snapshot ← fetch p r
    let estimate ← measure p snapshot r.apiKey
    pure (Quote.ofBase p.model estimate)

end Run

def deliver {σ : Type} (l : Listener) (e : Event) (w : World σ) : World σ :=
  (Run.emit l e w).2

/-- The terminal event of a run that has come to an end, if it reports one. -/
def terminalEvent? : Except Halt Event → Option Event
  | .ok e => some e
  | .error (.failed f) => f.event?
  | .error .panicked => some Failure.breakdown
  | .error .stalled => none

/-- A whole run.  It reports its terminal event unless there was one. -/
def execute {σ : Type} (p : Setting σ) (l : Listener) (r : DiagramRequest) (w : World σ) :
    World σ :=
  let (outcome, w') := Run.diagram p l r w
  match terminalEvent? outcome with
  | some e => if w'.history.isOver then w' else deliver l e w'
  | none => w'

/-! ## Views on the steps of a run -/

def emitted (steps : List Step) : List Event :=
  steps.filterMap Step.event?

def fetched (steps : List Step) : List (String × String × Option String) :=
  steps.filterMap fun
    | .fetch o r c _ => some (o, r, c)
    | _ => none

def counted (steps : List Step) : List TextRequest :=
  steps.filterMap fun
    | .count r _ => some r
    | _ => none

def generated (steps : List Step) : List TextRequest :=
  steps.filterMap fun
    | .generate r _ => some r
    | _ => none

def checked (steps : List Step) : List String :=
  steps.filterMap fun
    | .check d _ => some d
    | _ => none

def paused (steps : List Step) : Duration :=
  ⟨steps.foldl (fun n s => match s with | .pause d => n + d.nanoseconds | _ => n) 0⟩

end ArchDiagram
