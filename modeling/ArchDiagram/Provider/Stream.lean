import ArchDiagram.Run.World
import ArchDiagram.Web.Exchange
import ArchDiagram.Web.Sse

/-!
# Texts that the provider streams

The provider sends a text as an event stream.  Most events only accompany it; those that matter
carry an increment of the text or report that it failed.  What has been received waits in a queue
until it is handed on, and a piece of the body is read only when nothing waits.  The first failure
ends the text, whatever follows it.

* `StreamEvent.ofPayload?`: the event of a payload.
* `StreamEvent.signal?`: what an event means for the text.
* `Intake.turn`: one turn of the reading of a text.
* `textStream`: the text of an answer.
-/

namespace ArchDiagram.Provider

structure ApiError where
  message : Option String
  code : Option String

def ApiError.ofJson? (j : Json) : Option ApiError := do
  match ← j.slots ["message", "code"] with
  | [m, c] => return ⟨← m.optional Json.text?, ← c.optional Json.text?⟩
  | _ => none

/-- The error object in a record whose field `error` holds one. -/
def errorField? (j : Json) : Option (Option ApiError) := do
  match ← j.slots ["error"] with
  | [e] => e.optional ApiError.ofJson?
  | _ => none

/-- An event of the stream, as far as it is looked at. -/
structure StreamEvent where
  kind : String
  delta : Option String
  message : Option String
  refusal : Option String
  /-- The error of the response that the event is about. -/
  error : Option ApiError

/-- What an event means for the text. -/
inductive Signal where
  /-- The text goes on with this increment. -/
  | increment (s : String)
  | failure (e : ProviderError)

/-- The message of a failure that gives none. -/
def streamFailed : String :=
  "OpenAI stream failed."

/-- The message of a refusal that gives none. -/
def wasRefused : String :=
  "request was refused"

namespace StreamEvent

def ofJson? (j : Json) : Option StreamEvent := do
  match ← j.slots ["type", "delta", "message", "refusal", "response"] with
  | [t, d, m, f, r] =>
    let kind ← t.required Json.text?
    let delta ← d.optional Json.text?
    let message ← m.optional Json.text?
    let refusal ← f.optional Json.text?
    let error ← r.optional errorField?
    return ⟨kind, delta, message, refusal, error.join⟩
  | _ => none

/-- The event of a payload, none if it marks the end or describes none. -/
def ofPayload? (payload : String) : Option StreamEvent :=
  if payload = "[DONE]" then none else (Json.ofText? payload).bind ofJson?

/-- What an event means for the text.  Events of other kinds, and increments of nothing, mean
nothing. -/
def signal? (e : StreamEvent) : Option Signal :=
  match e.kind with
  | "response.output_text.delta" => (e.delta.filter (· ≠ "")).map .increment
  | "response.refusal.done" => some (.failure (.refused (e.refusal.getD wasRefused) none))
  | "error" => some (.failure (.stream ((e.message.filter (· ≠ "")).getD streamFailed)))
  | "response.failed" =>
    some (.failure (.stream ((e.error.bind (·.message)).getD streamFailed)))
  | _ => none

end StreamEvent

def Signal.ofPayload? (payload : String) : Option Signal :=
  (StreamEvent.ofPayload? payload).bind (·.signal?)

/-- The failure where an exchange is broken off, after a wait of the given time if it was silent. -/
def transportError (wait : Duration) : Web.Fault → ProviderError
  | .timedOut => .timeout wait none
  | f => .transport f

/-- A text that is being read. -/
structure Intake where
  /-- The pieces of the body that are still to be read. -/
  pieces : List (List UInt8)
  /-- What breaks the body off behind them, if anything does. -/
  fault : Option Web.Fault
  decoder : Sse.Decoder
  /-- What has been received and not yet handed on. -/
  pending : List Signal
  /-- Whether the end of the body has been read. -/
  finished : Bool

/-- What one turn of the reading comes to. -/
inductive Turn where
  /-- An increment is handed on. -/
  | yields (s : String) (i : Intake)
  /-- More of the body is read. -/
  | reads (i : Intake)
  | ends (e : Ending)

namespace Intake

def ofResponse (r : Web.Response) : Intake :=
  ⟨r.pieces, r.fault, .empty, [], false⟩

def take (i : Intake) (payloads : List String) : Intake :=
  { i with pending := i.pending ++ payloads.filterMap Signal.ofPayload? }

/-- One turn: what waits is handed on, and if nothing waits more of the body is read.  A block
without its empty line counts at the end of a whole body. -/
def turn (wait : Duration) (i : Intake) : Turn :=
  match i.pending with
  | .increment s :: pending => .yields s { i with pending := pending }
  | .failure e :: _ => .ends (.failed e)
  | [] =>
    if i.finished then .ends .finished
    else
      match i.pieces, i.fault with
      | p :: ps, _ =>
        let (payloads, d) := i.decoder.push p
        .reads ({ i with pieces := ps, decoder := d }.take payloads)
      | [], some f => .ends (.failed (transportError wait f))
      | [], none =>
        let (payloads, d) := i.decoder.finish
        .reads ({ i with decoder := d, finished := true }.take payloads)

/-- What a turn may come to, by what waits and what is left of the body. -/
inductive Turns (wait : Duration) : Intake → Turn → Prop
  | hands {ps : List (List UInt8)} {f : Option Web.Fault} {d : Sse.Decoder} {s : String}
      {pending : List Signal} {b : Bool} :
      Turns wait ⟨ps, f, d, .increment s :: pending, b⟩ (.yields s ⟨ps, f, d, pending, b⟩)
  | fails {ps : List (List UInt8)} {f : Option Web.Fault} {d : Sse.Decoder} {e : ProviderError}
      {pending : List Signal} {b : Bool} :
      Turns wait ⟨ps, f, d, .failure e :: pending, b⟩ (.ends (.failed e))
  | finishes {ps : List (List UInt8)} {f : Option Web.Fault} {d : Sse.Decoder} :
      Turns wait ⟨ps, f, d, [], true⟩ (.ends .finished)
  | pushes {p : List UInt8} {ps : List (List UInt8)} {f : Option Web.Fault} {d : Sse.Decoder} :
      Turns wait ⟨p :: ps, f, d, [], false⟩
        (.reads (take ⟨ps, f, (d.push p).2, [], false⟩ (d.push p).1))
  | breaks {f : Web.Fault} {d : Sse.Decoder} :
      Turns wait ⟨[], some f, d, [], false⟩ (.ends (.failed (transportError wait f)))
  | closes {d : Sse.Decoder} :
      Turns wait ⟨[], none, d, [], false⟩
        (.reads (take ⟨[], none, d.finish.2, [], true⟩ d.finish.1))

theorem turns_turn (wait : Duration) (i : Intake) : Turns wait i (i.turn wait) := by
  rcases i with ⟨_ | ⟨p, ps⟩, _ | f, d, _ | ⟨_ | _, pending⟩, _ | _⟩ <;> constructor

/-- How often the body may still be read. -/
def toRead (i : Intake) : Nat :=
  if i.finished then 0 else i.pieces.length + 1

theorem turn_yields {wait : Duration} {i j : Intake} {s : String} (h : i.turn wait = .yields s j) :
    j.toRead = i.toRead ∧ j.pending.length < i.pending.length := by
  have hturn := i.turns_turn wait
  rw [h] at hturn
  cases hturn
  exact ⟨rfl, Nat.lt_succ_self _⟩

theorem turn_reads {wait : Duration} {i j : Intake} (h : i.turn wait = .reads j) :
    j.toRead < i.toRead := by
  have hturn := i.turns_turn wait
  rw [h] at hturn
  cases hturn with
  | pushes => exact Nat.lt_succ_self _
  | closes => exact Nat.succ_pos _

/-- What is handed on until the text ends; `done` has been handed on before, the last increment
first. -/
def collect (wait : Duration) (done : List String) (i : Intake) : TextStream :=
  match _h : i.turn wait with
  | .yields s j => collect wait (s :: done) j
  | .reads j => collect wait done j
  | .ends e => ⟨done.reverse, e⟩
termination_by (i.toRead, i.pending.length)
decreasing_by
  · obtain ⟨hread, hpending⟩ := turn_yields _h
    rw [hread]
    exact Prod.Lex.right _ hpending
  · exact Prod.Lex.left _ _ (turn_reads _h)

end Intake

def textStream (wait : Duration) (r : Web.Response) : TextStream :=
  (Intake.ofResponse r).collect wait []

end ArchDiagram.Provider
