import ArchDiagram.Run.Pipeline

/-!
# The web service

The service has three routes: one starts a run and answers with its events as a stream, one gives a
quote, and one tells that the service is up.  A quote is always answered with success; whether it
could be given is written in the body.

* `Route.ofTarget?`: the route of a target.
* `respond`: the answer to a call.
-/

namespace ArchDiagram.Server

structure Call where
  method : String
  /-- The target as it is sent, with its query. -/
  target : String
  body : List UInt8

structure Reply where
  status : Nat
  headers : List (String × String)
  body : String

inductive Route where
  | stream
  | cost
  | health
  deriving DecidableEq

namespace Route

def path : Route → String
  | stream => "/generate/stream"
  | cost => "/generate/cost"
  | health => "/healthz"

/-- The part of a target after its scheme and its authority. -/
def afterAuthority (cs : List Char) : List Char :=
  match Text.breakAt? "://".toList cs with
  | some (_, rest) => (rest.drop 3).dropWhile fun c => c != '/' && c != '?' && c != '#'
  | none => cs

def pathOf (target : String) : String :=
  let cs := target.toList
  let tail := if cs.head? == some '/' then cs else afterAuthority cs
  String.ofList (tail.takeWhile fun c => c != '?' && c != '#')

/-- The route of a target.  Its path is compared as it is sent. -/
def ofTarget? (target : String) : Option Route :=
  [stream, cost, health].find? (·.path = pathOf target)

def methods : Route → List String
  | stream | cost => ["POST"]
  | health => ["GET", "HEAD"]

end Route

def bodyLimit : Nat := 2097152

def jsonReply (status : Nat) (j : Json) : Reply :=
  ⟨status, [("content-type", "application/json")], j.render⟩

def tooLarge : Reply :=
  ⟨413, [("content-type", "text/plain; charset=utf-8")],
    "Failed to buffer the request body: length limit exceeded"⟩

def invalidReply (f : Failure) : Reply :=
  jsonReply 400 (.record [("ok", .bool false), ("error", .text f.message),
    ("error_code", ErrorCode.validationError.toJson)])

def streamReply (events : List Event) : Reply :=
  ⟨200, [("content-type", "text/event-stream"), ("cache-control", "no-cache, no-transform"),
    ("x-accel-buffering", "no")], String.join (events.map Event.frame)⟩

def healthReply : Reply :=
  jsonReply 200 (.record [("ok", .bool true), ("status", .text "ok")])

variable {σ : Type}

/-- Starts a run whose listener reads all its events. -/
def respondStream (p : Setting σ) (body : List UInt8) (w : World σ) : Reply × World σ :=
  match DiagramRequest.ofOctets body with
  | .error f => (invalidReply f, w)
  | .ok r =>
    let w' := execute p .loyal r { w with history := [] }
    (streamReply (emitted w'.history.reverse), { w' with history := w'.history ++ w.history })

/-- Gives a quote; no answer if a collaborator breaks down meanwhile. -/
def respondCost (p : Setting σ) (body : List UInt8) (w : World σ) : Option Reply × World σ :=
  match DiagramRequest.ofOctets body with
  | .error f => (some (jsonReply 200 f.quoteJson), w)
  | .ok r =>
    match Run.quote p r w with
    | (.ok q, w') => (some (jsonReply 200 q.resultJson), w')
    | (.error (.failed f), w') => (some (jsonReply 200 f.quoteJson), w')
    | (.error _, w') => (none, w')

def serve (p : Setting σ) (route : Route) (c : Call) (w : World σ) : Option Reply × World σ :=
  match route with
  | .health =>
    (some (if c.method = "HEAD" then { healthReply with body := "" } else healthReply), w)
  | .stream =>
    if bodyLimit < c.body.length then (some tooLarge, w)
    else
      let (reply, w') := respondStream p c.body w
      (some reply, w')
  | .cost => if bodyLimit < c.body.length then (some tooLarge, w) else respondCost p c.body w

def respond (p : Setting σ) (c : Call) (w : World σ) : Option Reply × World σ :=
  match Route.ofTarget? c.target with
  | none => (some ⟨404, [], ""⟩, w)
  | some route =>
    if c.method ∈ route.methods then serve p route c w
    else (some ⟨405, [("allow", ",".intercalate route.methods)], ""⟩, w)

end ArchDiagram.Server
