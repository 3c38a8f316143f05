import ArchDiagram.Event.Wire
import ArchDiagram.Gate
import ArchDiagram.Provider.Error
import ArchDiagram.Repository.Snapshot

/-!
# Failures of a run

Why a run ends without a diagram.  Every failure has a code and a wording and is reported by a
terminal event, unless nobody listens any more.

* `Failure.event?`: the terminal event.
* `Failure.quoteJson`: the answer to a request for a quote that failed.
-/

namespace ArchDiagram

/-- Why a run ends without a diagram. -/
inductive Failure where
  /-- The request is malformed or incomplete; the reason is not shown to the caller. -/
  | invalidRequest (reason : String)
  | snapshot (e : SnapshotError)
  | rejected (r : Gate.Rejection)
  | provider (e : ProviderError)
  /-- The checker rejected the diagram to the last, with this feedback. -/
  | unresolved (feedback : String)
  | internal (message : String)
  /-- Nobody listens to the events. -/
  | disconnected
  deriving DecidableEq

namespace Failure

def streamFailed : String :=
  "Streaming generation failed."

def message : Failure → String
  | invalidRequest _ => "Invalid request payload."
  | snapshot e => e.message
  | rejected r => r.message
  | provider e => e.message
  | unresolved _ =>
    "Generated Mermaid remained syntactically invalid after auto-fix attempts. Please retry " ++
      "generation."
  | internal m => m
  | disconnected => "event consumer disconnected"

def code : Failure → ErrorCode
  | invalidRequest _ => .validationError
  | rejected (.keyRequired ..) => .apiKeyRequired
  | rejected (.tooLarge ..) => .tokenLimitExceeded
  | unresolved _ => .mermaidSyntaxUnresolved
  | snapshot _ | provider _ | internal _ | disconnected => .streamFailed

def feedback? : Failure → Option String
  | unresolved f => some f
  | _ => none

/-- The terminal event of a failure, none if nobody listens. -/
def event? (f : Failure) : Option Event :=
  if f = disconnected then none
  else some (.error (if f.message = "" then streamFailed else f.message) f.code f.feedback?)

/-- The terminal event where a collaborator broke down. -/
def breakdown : Event :=
  .error streamFailed .streamFailed none

def quoteCode (f : Failure) : ErrorCode :=
  if f.code = .validationError then .validationError else .costEstimationFailed

/-- The answer to a request for a quote that failed, its members in the order of their names. -/
def quoteJson (f : Failure) : Json :=
  .record [("error", .text f.message), ("error_code", f.quoteCode.toJson), ("ok", .bool false)]

end Failure

end ArchDiagram
