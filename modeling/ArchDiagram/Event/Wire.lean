import ArchDiagram.Event.Basic
import ArchDiagram.Json.Reader
import ArchDiagram.Json.Record

/-!
# Events as JSON

An event is written as an object whose member `status` names its kind, followed by its fields in
order; a feedback that is absent is left out, except in an announced attempt, which always has one.
An event is read from such an object with its members in any order, or from an array of the status
and the fields.

* `Event.toJson`, `Event.frame`, `Event.line`: writing.
* `Event.ofJson?`: reading.
-/

namespace ArchDiagram

def ErrorCode.toJson (c : ErrorCode) : Json :=
  .text c.name

def ErrorCode.ofJson? (j : Json) : Option ErrorCode :=
  j.name?.bind ofName?

namespace Event

/-- A feedback that may be absent, as members. -/
def feedbackMember (f : Option String) : List (String × Json) :=
  (f.map fun s => ("parser_error", Json.text s)).toList

def members : Event → List (String × Json)
  | started m | explanationSent m | explanation m | mappingSent m | mapping m | diagramSent m
  | diagram m => [("message", .text m)]
  | explanationChunk c | mappingChunk c | diagramChunk c => [("chunk", .text c)]
  | diagramFixing m f => ("message", .text m) :: feedbackMember f
  | diagramFixAttempt m i n f =>
    [("message", .text m), ("fix_attempt", .nat i), ("fix_max_attempts", .nat n),
      ("parser_error", .text f)]
  | diagramFixChunk c i n =>
    [("chunk", .text c), ("fix_attempt", .nat i), ("fix_max_attempts", .nat n)]
  | diagramFixValidating m i n =>
    [("message", .text m), ("fix_attempt", .nat i), ("fix_max_attempts", .nat n)]
  | complete d e m => [("diagram", .text d), ("explanation", .text e), ("mapping", .text m)]
  | error m c f => ("error", .text m) :: ("error_code", c.toJson) :: feedbackMember f

def toJson (e : Event) : Json :=
  .record (("status", .text e.status) :: e.members)

def frame (e : Event) : String :=
  "data: " ++ e.toJson.render ++ "\n\n"

def line (e : Event) : String :=
  e.toJson.render ++ "\n"

/-! ## Reading -/

/-- The name of a code inside an event; the object form also takes an empty object as its value. -/
def codeOf? : Json → Option ErrorCode
  | .object [(some k, .object [])] => ErrorCode.ofName? k
  | j => ErrorCode.ofJson? j

def attempts? : Json → Option Nat :=
  Json.natural? (Decimal.twoTo 32)

/-- An event whose only field is a text. -/
def ofText? (name : String) (make : String → Event) (fields : Json) : Option Event := do
  match ← fields.slots [name] with
  | [m] => return make (← m.required Json.text?)
  | _ => none

/-- An event of a given kind from the other members or items of its value. -/
def ofFields? (status : String) (fields : Json) : Option Event :=
  match status with
  | "started" => ofText? "message" started fields
  | "explanation_sent" => ofText? "message" explanationSent fields
  | "explanation" => ofText? "message" explanation fields
  | "explanation_chunk" => ofText? "chunk" explanationChunk fields
  | "mapping_sent" => ofText? "message" mappingSent fields
  | "mapping" => ofText? "message" mapping fields
  | "mapping_chunk" => ofText? "chunk" mappingChunk fields
  | "diagram_sent" => ofText? "message" diagramSent fields
  | "diagram" => ofText? "message" diagram fields
  | "diagram_chunk" => ofText? "chunk" diagramChunk fields
  | "diagram_fixing" => do
    match ← fields.slots ["message", "parser_error"] with
    | [m, f] => return diagramFixing (← m.required Json.text?) (← f.orNull Json.text?)
    | _ => none
  | "diagram_fix_attempt" => do
    match ← fields.slots ["message", "fix_attempt", "fix_max_attempts", "parser_error"] with
    | [m, i, n, f] =>
      return diagramFixAttempt (← m.required Json.text?) (← i.required attempts?)
        (← n.required attempts?) (← f.required Json.text?)
    | _ => none
  | "diagram_fix_chunk" => do
    match ← fields.slots ["chunk", "fix_attempt", "fix_max_attempts"] with
    | [c, i, n] =>
      return diagramFixChunk (← c.required Json.text?) (← i.required attempts?)
        (← n.required attempts?)
    | _ => none
  | "diagram_fix_validating" => do
    match ← fields.slots ["message", "fix_attempt", "fix_max_attempts"] with
    | [m, i, n] =>
      return diagramFixValidating (← m.required Json.text?) (← i.required attempts?)
        (← n.required attempts?)
    | _ => none
  | "complete" => do
    match ← fields.slots ["diagram", "explanation", "mapping"] with
    | [d, e, m] =>
      return complete (← d.required Json.text?) (← e.required Json.text?) (← m.required Json.text?)
    | _ => none
  | "error" => do
    match ← fields.slots ["error", "error_code", "parser_error"] with
    | [m, c, f] =>
      return error (← m.required Json.text?) (← c.required codeOf?) (← f.orNull Json.text?)
    | _ => none
  | _ => none

/-- The depth of nesting that is read in an event. -/
def maxDepth : Nat := 127

/-- Splits the value of an event into its status and the rest.  The status is named once. -/
def statusOf? : Json → Option (String × Json)
  | .object ms =>
    match ms.filter (fun m => m.1 = some "status") with
    | [(_, .string (some s))] => some (s, .object (ms.filter (fun m => m.1 ≠ some "status")))
    | _ => none
  | .array (.string (some s) :: rest) => some (s, .array rest)
  | _ => none

def ofJson? (j : Json) : Option Event := do
  if j.isSound maxDepth then
    let (status, fields) ← statusOf? j
    ofFields? status fields
  else none

def ofText (s : String) : Option Event :=
  (Json.ofText? s).bind ofJson?

end Event

end ArchDiagram
