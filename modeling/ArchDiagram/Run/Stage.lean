import ArchDiagram.Event.Basic
import ArchDiagram.Prompt.Request
import ArchDiagram.Repository.Snapshot

/-!
# Stages

A diagram is made in three stages: the repository is explained, its components are mapped to paths,
and the diagram is drawn.  Each stage sends one request and announces itself by two events.

* `Stage.request`: the request of a stage.
* `explanationRequest`: the request of the first stage, by which the input is also measured.
-/

namespace ArchDiagram

inductive Stage where
  | explanation
  | mapping
  | diagram
  deriving DecidableEq

namespace Stage

def name : Stage → String
  | explanation => "explanation"
  | mapping => "mapping"
  | diagram => "diagram"

def label : Stage → String
  | explanation => "explanation"
  | mapping => "component mapping"
  | diagram => "diagram generation"

def caller (s : Stage) : String :=
  "pipeline::" ++ s.name

def instructions : Stage → String
  | explanation => Instructions.explanation
  | mapping => Instructions.mapping
  | diagram => Instructions.diagram

def effort : Stage → Effort
  | explanation => .medium
  | mapping | diagram => .low

def request (s : Stage) (model : String) (sections : List Section) (apiKey : Option String) :
    TextRequest where
  model := model
  instructions := s.instructions
  sections := sections
  effort := some s.effort
  apiKey := apiKey
  maxOutputTokens := none
  caller := s.caller

def sentEvent (s : Stage) (model : String) : Event :=
  let message := "Sending " ++ s.label ++ " request to " ++ model ++ "..."
  match s with
  | explanation => .explanationSent message
  | mapping => .mappingSent message
  | diagram => .diagramSent message

def progressEvent : Stage → Event
  | explanation => .explanation "Analyzing repository structure..."
  | mapping => .mapping "Creating component mapping..."
  | diagram => .diagram "Generating diagram..."

def chunkEvent : Stage → String → Event
  | explanation => .explanationChunk
  | mapping => .mappingChunk
  | diagram => .diagramChunk

end Stage

def Snapshot.sections (s : Snapshot) : List Section :=
  [⟨"file_tree", s.fileTree⟩, ⟨"readme", s.readme⟩]

def explanationRequest (model : String) (s : Snapshot) (apiKey : Option String) : TextRequest :=
  Stage.explanation.request model s.sections apiKey

end ArchDiagram
