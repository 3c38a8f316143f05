import ArchDiagram.Run.Stage
import ArchDiagram.Run.World

/-!
# Generating a text within a run

Every increment of a text is passed on as an event as soon as it arrives; empty increments are not.
The output of a stage is all increments together.

* `Setting`: what a run is given besides its request.
* `generate`: asks for a text and passes it on.
* `runStage`: announces a stage and generates its text.
-/

namespace ArchDiagram

structure Setting (σ : Type) where
  team : Team σ
  policy : Gate.Policy
  model : String
  /-- The pause between the two announcements of a stage. -/
  pacing : Duration
  maxRepairs : Nat

namespace Run

variable {σ : Type}

/-- Passes on the increments of a text, after the text `output`. -/
def forward (l : Listener) (event : String → Event) (output : String) :
    List String → Run σ String
  | [] => pure output
  | c :: cs =>
    if c = "" then forward l event output cs
    else do
      emit l (event c)
      forward l event (output ++ c) cs

/-- Asks for a text and passes it on; the whole text, if it comes to its end. -/
def generate (p : Setting σ) (l : Listener) (r : TextRequest) (event : String → Event) :
    Run σ String := do
  let stream ← ask (.generate r) (p.team.generate r) .provider
  let output ← forward l event "" stream.increments
  match stream.ending with
  | .finished => pure output
  | .failed e => fail (.provider e)
  | .panicked => halt .panicked
  | .stalled => halt .stalled

def runStage (p : Setting σ) (l : Listener) (s : Stage) (sections : List Section)
    (apiKey : Option String) : Run σ String := do
  emit l (s.sentEvent p.model)
  pause p.pacing
  emit l s.progressEvent
  generate p l (s.request p.model sections apiKey) s.chunkEvent

end Run

end ArchDiagram
