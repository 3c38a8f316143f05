import ArchDiagram.Diagram.Fence
import ArchDiagram.Run.Generation

/-!
# Repairing a diagram

A diagram that the checker rejects goes back to the model together with the checker's feedback, a
bounded number of times.

* `repairRequest`: the request for a repaired diagram.
* `Run.ensureValid`: a diagram that the checker accepts, or the failure to get one.
-/

namespace ArchDiagram

/-- What the stages before have found out, handed on with every repair. -/
structure Findings where
  explanation : String
  mapping : String

def repairRequest (model : String) (apiKey : Option String) (f : Findings)
    (diagram feedback : String) : TextRequest where
  model := model
  instructions := Instructions.repair
  sections := [⟨"mermaid_code", diagram⟩, ⟨"parser_error", feedback⟩,
    ⟨"explanation", f.explanation⟩, ⟨"component_mapping", f.mapping⟩]
  effort := some .low
  apiKey := apiKey
  maxOutputTokens := none
  caller := "pipeline::repair"

/-- Counts an attempt among all, such as `2/3`. -/
def attemptOf (i n : Nat) : String :=
  Decimal.text i ++ "/" ++ Decimal.text n

/-! ## Events -/

def Verdict.fixingEvent (v : Verdict) : Event :=
  .diagramFixing "Diagram generated. Mermaid syntax validation failed, starting auto-fix loop..."
    (some v.feedback)

/-- The event before the attempt `i` of `n` to repair a diagram that got the verdict `v`. -/
def Verdict.attemptEvent (v : Verdict) (i n : Nat) : Event :=
  .diagramFixAttempt ("Fixing Mermaid syntax (attempt " ++ attemptOf i n ++ ")...") i n v.feedback

def validatingEvent (i n : Nat) : Event :=
  .diagramFixValidating ("Validating Mermaid syntax after attempt " ++ attemptOf i n ++ "...") i n

def fixedEvent : Event :=
  .diagramFixing "Mermaid syntax validated. Finalizing diagram output..." none

namespace Run

variable {σ : Type}

def check (p : Setting σ) (diagram : String) : Run σ Verdict :=
  ask (.check diagram) (p.team.check diagram) nofun

/-- One attempt to repair a diagram: the new diagram and the verdict on it. -/
def repairOnce (p : Setting σ) (l : Listener) (apiKey : Option String) (f : Findings) (i : Nat)
    (diagram : String) (v : Verdict) : Run σ (String × Verdict) := do
  let n := p.maxRepairs
  emit l (v.attemptEvent i n)
  let answer ← generate p l (repairRequest p.model apiKey f diagram v.feedback)
    (fun c => .diagramFixChunk c i n)
  let repaired := Diagram.stripFences answer
  emit l (validatingEvent i n)
  let verdict ← check p repaired
  pure (repaired, verdict)

/-- Repairs a diagram until it is accepted or the attempts that are left are used up; `i` counts the
next attempt. -/
def repairLoop (p : Setting σ) (l : Listener) (apiKey : Option String) (f : Findings) (i : Nat)
    (diagram : String) (v : Verdict) : Nat → Run σ (String × Verdict)
  | 0 => pure (diagram, v)
  | left + 1 =>
    if v.valid then pure (diagram, v)
    else do
      let (repaired, verdict) ← repairOnce p l apiKey f i diagram v
      repairLoop p l apiKey f (i + 1) repaired verdict left

/-- A diagram that the checker accepts, repaired as often as it takes and is allowed. -/
def ensureValid (p : Setting σ) (l : Listener) (apiKey : Option String) (f : Findings)
    (diagram : String) : Run σ String := do
  let v ← check p diagram
  if v.valid then pure diagram
  else do
    emit l v.fixingEvent
    let (last, verdict) ← repairLoop p l apiKey f 1 diagram v p.maxRepairs
    if verdict.valid then do
      emit l fixedEvent
      pure last
    else fail (.unresolved verdict.feedback)

end Run

end ArchDiagram
