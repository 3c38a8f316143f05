import ArchDiagram.Duration
import ArchDiagram.Web.Fault

/-!
# Failures of the provider

What can go wrong when the model is asked.  Each failure has a short code, a wording and a context
taken from the provider's answer, and it is transient if a fresh attempt might succeed.
-/

namespace ArchDiagram

/-- What the provider's answer tells about a failure. -/
structure ErrorContext where
  status : Option Nat
  code : Option String
  requestId : Option String
  deriving DecidableEq

inductive ProviderError where
  /-- Too many requests; another one may be sent after the given time. -/
  | rateLimited (retryAfter : Duration) (context : Option ErrorContext)
  /-- The request itself is wrong. -/
  | invalidRequest (message : String) (context : Option ErrorContext)
  /-- The model refuses to answer. -/
  | refused (message : String) (context : Option ErrorContext)
  /-- The provider reports a failure. -/
  | failed (provider message : String) (context : Option ErrorContext)
  /-- A failure reported inside a stream that was already open. -/
  | stream (message : String)
  | timeout (after : Duration) (context : Option ErrorContext)
  | transport (fault : Web.Fault)
  /-- Something is not set up, such as a key. -/
  | setup (message : String)
  deriving DecidableEq

namespace ProviderError

def code : ProviderError → String
  | rateLimited .. => "rate_limited"
  | invalidRequest .. => "invalid_request"
  | refused .. => "refused"
  | failed .. => "provider_error"
  | stream _ => "stream_error"
  | timeout .. => "timeout"
  | transport .timedOut => "timeout"
  | transport _ => "http_error"
  | setup _ => "config_error"

def message : ProviderError → String
  | rateLimited after _ => "rate limited, retry after " ++ after.text
  | invalidRequest m _ => "invalid request: " ++ m
  | refused m _ => "refused: " ++ m
  | failed provider m _ => provider ++ " error: " ++ m
  | stream m => m
  | timeout after _ => "timeout after " ++ after.text
  | transport fault => "http error: " ++ fault.message
  | setup m => "configuration error: " ++ m

def context : ProviderError → Option ErrorContext
  | rateLimited _ c | invalidRequest _ c | refused _ c | failed _ _ c | timeout _ c => c
  | stream _ | transport _ | setup _ => none

/-- Whether a fresh attempt might succeed. -/
def isTransient : ProviderError → Bool
  | rateLimited .. | timeout .. => true
  | failed _ _ c => (c.bind (·.status)).any (500 ≤ ·)
  | transport fault => fault.isTransient
  | invalidRequest .. | refused .. | stream _ | setup _ => false

/-- The provider's number of the request that failed. -/
def requestId (e : ProviderError) : Option String :=
  e.context.bind (·.requestId)

end ProviderError

end ArchDiagram
