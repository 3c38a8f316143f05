import ArchDiagram.Json.Reader
import ArchDiagram.Web.Fault
import ArchDiagram.Web.Url

/-!
# Exchanges with a server

A server is described by the outcomes of the exchanges to come, and it keeps the requests it was
sent.  An answer has a status, headers and a body that arrives in pieces and may break off.

An exchange is what the HTTP client makes of one request.  The client follows redirects on its own,
up to ten of them: these further requests belong to the exchange and are not kept, and the answer is
the one that it ends with.  An answer that redirects is an outcome only where it names no place to
go to.

* `Remote.send`: one exchange.
* `Response.octets?`, `Response.text`: the body of an answer.
-/

namespace ArchDiagram.Web

structure Request where
  method : String
  url : Url
  headers : List (String × String)
  body : Option Json

structure Response where
  status : Nat
  headers : List (String × String)
  /-- The body in the pieces in which it arrives. -/
  pieces : List (List UInt8)
  /-- What breaks the body off, if anything does. -/
  fault : Option Fault

/-- The outcome of an exchange, after the redirects that were followed. -/
abbrev Outcome := Except Fault Response

/-- A server: what comes of the next exchanges, what comes of all later ones, and the requests sent
so far, the last one first. -/
structure Remote where
  outcomes : List Outcome
  later : Outcome
  sent : List Request

namespace Response

def blank : Response :=
  ⟨200, [], [], none⟩

def isSuccess (r : Response) : Bool :=
  200 ≤ r.status && r.status < 300

/-- The whole body, none if it broke off. -/
def octets? (r : Response) : Option (List UInt8) :=
  match r.fault with
  | none => some r.pieces.flatten
  | some _ => none

/-- The text of the body, empty if it broke off. -/
def text (r : Response) : String :=
  (r.octets?.map Utf8.decodeLossy).getD ""

def header? (r : Response) (name : String) : Option String :=
  (r.headers.find? fun h => h.1.toList.map Char.toLower = name.toList).map (·.2)

end Response

namespace Remote

def unreachable : Remote :=
  ⟨[], .error .unreachable, []⟩

/-- A server that gives these outcomes and then empty successes. -/
def ofOutcomes (os : List Outcome) : Remote :=
  ⟨os, .ok .blank, []⟩

/-- One exchange, with the redirects that it takes. -/
def send (r : Request) (m : Remote) : Outcome × Remote :=
  match m.outcomes with
  | [] => (m.later, { m with sent := r :: m.sent })
  | o :: os => (o, { m with outcomes := os, sent := r :: m.sent })

end Remote

def isHeaderValue (s : String) : Bool :=
  s.toList.all fun c => c == '\t' || (0x20 ≤ c.toNat && c.toNat ≠ 0x7F)

/-- Whether a header value consists of characters that are read as text. -/
def isPlainValue (s : String) : Bool :=
  s.toList.all fun c => c == '\t' || (0x20 ≤ c.toNat && c.toNat < 0x7F)

/-- Builds a request; none if nothing can be sent to its address or a header is not well-formed. -/
def buildRequest? (method url : String) (headers : List (String × String)) (body : Option Json) :
    Option Request := do
  let u ← Url.parse? url
  if u.isSendable ∧ headers.all fun h => isHeaderValue h.2 then some ⟨method, u, headers, body⟩
  else none

end ArchDiagram.Web
