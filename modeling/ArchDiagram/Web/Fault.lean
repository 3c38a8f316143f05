/-!
# Faults of an exchange

An exchange with a server fails without an answer if the request cannot be built, if the server
cannot be reached, if it stays silent too long, if the request is redirected without end or if the
connection breaks.
-/

namespace ArchDiagram.Web

inductive Fault where
  /-- The address or a header of the request is not well-formed. -/
  | unsendable
  /-- No connection was made. -/
  | unreachable
  /-- The server was silent for too long. -/
  | timedOut
  /-- One redirect led to the next one too often. -/
  | redirected
  /-- The connection ended inside the answer. -/
  | broken
  deriving DecidableEq

namespace Fault

def message : Fault → String
  | unsendable => "builder error"
  | unreachable => "error sending request"
  | timedOut => "operation timed out"
  | redirected => "error following redirect"
  | broken => "error decoding response body"

/-- Whether the same request may succeed later. -/
def isTransient : Fault → Bool
  | timedOut | unreachable => true
  | unsendable | redirected | broken => false

end Fault

end ArchDiagram.Web
