import ArchDiagram.Failure
import ArchDiagram.Pricing.Quote

/-!
# Requests for a diagram

A request names a repository and may bring the caller's own credentials.  Names must not be empty,
nor credentials that are given.

* `DiagramRequest.fault?`: what is wrong with a request.
* `DiagramRequest.ofOctets`: the request in a body.
* `quoteResult`: the answer to a request for a quote.
-/

namespace ArchDiagram

structure DiagramRequest where
  owner : String
  repo : String
  /-- The caller's key for the model. -/
  apiKey : Option String
  /-- The caller's token for the repository's host. -/
  hostToken : Option String
  deriving DecidableEq

namespace DiagramRequest

/-- The first thing that is wrong with a request. -/
def fault? (r : DiagramRequest) : Option String :=
  if r.owner = "" then some "username is empty"
  else if r.repo = "" then some "repo is empty"
  else if r.apiKey = some "" then some "api_key is empty"
  else if r.hostToken = some "" then some "github_pat is empty"
  else none

def ofJson? (j : Json) : Option DiagramRequest := do
  match ← j.slots ["username", "repo", "api_key", "github_pat"] with
  | [u, r, k, t] =>
    return ⟨← u.required Json.text?, ← r.required Json.text?, ← k.orNull Json.text?,
      ← t.orNull Json.text?⟩
  | _ => none

def ofOctets (body : List UInt8) : Except Failure DiagramRequest :=
  match (Json.ofOctets? body).bind ofJson? with
  | none => .error (.invalidRequest "malformed body")
  | some r =>
    match r.fault? with
    | some reason => .error (.invalidRequest reason)
    | none => .ok r

end DiagramRequest

/-- A quote that was given, its members in the order of their names. -/
def Quote.resultJson (q : Quote) : Json :=
  .record [("cost", .text q.cost), ("estimated_input_tokens", .nat q.inputTokens),
    ("estimated_output_tokens", .nat q.outputTokens), ("model", .text q.model), ("ok", .bool true),
    ("pricing", q.rate.toJson), ("pricing_model", .text q.family)]

def quoteResult : Except Failure Quote → Json
  | .ok q => q.resultJson
  | .error f => f.quoteJson

end ArchDiagram
