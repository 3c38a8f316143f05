/-!
# Events of a run

While a run goes on it reports events to whoever listens.  The last one is terminal: the finished
diagram or an error with a code.
-/

namespace ArchDiagram

inductive ErrorCode where
  | validationError
  | apiKeyRequired
  | tokenLimitExceeded
  | mermaidSyntaxUnresolved
  | streamFailed
  | costEstimationFailed
  deriving DecidableEq

namespace ErrorCode

def name : ErrorCode → String
  | validationError => "VALIDATION_ERROR"
  | apiKeyRequired => "API_KEY_REQUIRED"
  | tokenLimitExceeded => "TOKEN_LIMIT_EXCEEDED"
  | mermaidSyntaxUnresolved => "MERMAID_SYNTAX_UNRESOLVED"
  | streamFailed => "STREAM_FAILED"
  | costEstimationFailed => "COST_ESTIMATION_FAILED"

def all : List ErrorCode :=
  [validationError, apiKeyRequired, tokenLimitExceeded, mermaidSyntaxUnresolved, streamFailed,
    costEstimationFailed]

def ofName? (s : String) : Option ErrorCode :=
  all.find? (·.name = s)

end ErrorCode

inductive Event where
  | started (message : String)
  | explanationSent (message : String)
  | explanation (message : String)
  | explanationChunk (chunk : String)
  | mappingSent (message : String)
  | mapping (message : String)
  | mappingChunk (chunk : String)
  | diagramSent (message : String)
  | diagram (message : String)
  | diagramChunk (chunk : String)
  | diagramFixing (message : String) (feedback : Option String)
  | diagramFixAttempt (message : String) (attempt maxAttempts : Nat) (feedback : String)
  | diagramFixChunk (chunk : String) (attempt maxAttempts : Nat)
  | diagramFixValidating (message : String) (attempt maxAttempts : Nat)
  | complete (diagram explanation mapping : String)
  | error (message : String) (code : ErrorCode) (feedback : Option String)
  deriving DecidableEq

namespace Event

/-- Whether an event is the last one of its run. -/
def isTerminal : Event → Bool
  | complete .. | error .. => true
  | _ => false

def status : Event → String
  | started _ => "started"
  | explanationSent _ => "explanation_sent"
  | explanation _ => "explanation"
  | explanationChunk _ => "explanation_chunk"
  | mappingSent _ => "mapping_sent"
  | mapping _ => "mapping"
  | mappingChunk _ => "mapping_chunk"
  | diagramSent _ => "diagram_sent"
  | diagram _ => "diagram"
  | diagramChunk _ => "diagram_chunk"
  | diagramFixing .. => "diagram_fixing"
  | diagramFixAttempt .. => "diagram_fix_attempt"
  | diagramFixChunk .. => "diagram_fix_chunk"
  | diagramFixValidating .. => "diagram_fix_validating"
  | complete .. => "complete"
  | error .. => "error"

end Event

end ArchDiagram
